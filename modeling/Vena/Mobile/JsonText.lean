import Vena.Mobile.JsonEncode
import Vena.Mobile.Num

/-!
# jsonEncode of any Value

The encoder of `dart:convert` for lists and maps inside one another. A number
is written as the literal it is kept as. What is written is read back, provided
every number is a literal of the grammar.

The decoder learns that a number is over only from the unit behind it, so a
value may leave it in one of two places. `Behind` names both: from either, a
comma or a closing bracket has the same effect, and so has the end of the text.

## Main definitions

* `encodeValue`: A value, with `encodeItems` and `encodeMembers` for what is in it.
* `JsonValue.WellFormed`: Every number is a literal.
* `Behind`: The decoder has read a value.

## Theorems

* `JsonValue.ind`: Induction over values inside lists and maps.
* `feed_encodeValue`: The decoder reads a value back.
* `jsonDecode_encodeValue`: So does `jsonDecode`.
* `encodeValue_strings`: A map of strings is written as by `jsonEncode`.
-/

namespace Vena

namespace Mobile

open Decoder

mutual

def encodeValue : JsonValue → DartString
  | .null => dartString "null"
  | .bool true => dartString "true"
  | .bool false => dartString "false"
  | .number literal => literal
  | .string s => Encoder.writeString s
  | .list items => 0x5B :: encodeItems [] items
  | .map members => 0x7B :: encodeMembers [] members

/-- The items of a list and the closing bracket. -/
def encodeItems (separator : DartString) : List JsonValue → DartString
  | [] => [0x5D]
  | v :: items => separator ++ (encodeValue v ++ encodeItems [0x2C] items)

/-- The members of a map and the closing brace. -/
def encodeMembers (separator : DartString) : List (DartString × JsonValue) → DartString
  | [] => [0x7D]
  | (key, v) :: members =>
    separator ++ (Encoder.writeString key ++ 0x3A :: (encodeValue v ++
      encodeMembers [0x2C] members))

end

namespace JsonValue

/-- Induction over values inside lists and maps. -/
theorem ind {P : JsonValue → Prop} (null : P .null) (bool : ∀ b, P (.bool b))
    (number : ∀ literal, P (.number literal)) (string : ∀ s, P (.string s))
    (list : ∀ items, (∀ v ∈ items, P v) → P (.list items))
    (map : ∀ members : List (DartString × JsonValue), (∀ m ∈ members, P m.2) → P (.map members)) :
    ∀ v, P v :=
  @JsonValue.rec P (fun items => ∀ v ∈ items, P v)
    (fun members => ∀ m ∈ members, P m.2) (fun m => P m.2)
    null bool number string list map
    (fun _ h => absurd h List.not_mem_nil)
    (fun _ _ hv hrest => List.forall_mem_cons.mpr ⟨hv, hrest⟩)
    (fun _ h => absurd h List.not_mem_nil)
    (fun _ _ hm hrest => List.forall_mem_cons.mpr ⟨hm, hrest⟩)
    (fun _ _ hv => hv)

/-- Every number in it is a literal. -/
inductive WellFormed : JsonValue → Prop
  | null : WellFormed .null
  | bool (b : Bool) : WellFormed (.bool b)
  | number (literal : DartString) (h : isLiteral literal = true) : WellFormed (.number literal)
  | string (s : DartString) : WellFormed (.string s)
  | list (items : List JsonValue) (h : ∀ v ∈ items, WellFormed v) : WellFormed (.list items)
  | map (members : List (DartString × JsonValue)) (h : ∀ m ∈ members, WellFormed m.2) :
    WellFormed (.map members)

end JsonValue

/-- The decoder has read the value `v`. It may still be waiting for the unit that
    ends a number. -/
def Behind (v : JsonValue) (stack : List Frame) (d : Decoder) : Prop :=
  d = ⟨.after v, stack⟩ ∨ ∃ part literal, v = .number literal ∧ part.complete = true ∧
    d = ⟨.number part literal.reverse, stack⟩

/-- A comma or a closing bracket. -/
def isDelimiter (c : Nat) : Bool := c = 0x2C || c = 0x5D || c = 0x7D

theorem numberPart_delimiter (part : NumberPart) (c : Nat) (hc : isDelimiter c = true) :
    numberPart part c = none := by
  have hall : ∀ part, numberPart part 0x2C = none ∧ numberPart part 0x5D = none ∧
      numberPart part 0x7D = none := by
    intro part
    cases part with
    | _ => exact ⟨rfl, rfl, rfl⟩
  simp only [isDelimiter, Bool.or_eq_true, decide_eq_true_eq] at hc
  rcases hc with (rfl | rfl) | rfl
  · exact (hall part).1
  · exact (hall part).2.1
  · exact (hall part).2.2

theorem step_behind (v : JsonValue) (stack : List Frame) (d : Decoder) (c : Nat)
    (hd : Behind v stack d) (hc : isDelimiter c = true) : step d c = afterValue stack v c := by
  rcases hd with rfl | ⟨part, literal, rfl, hpart, rfl⟩
  · rfl
  · rw [step]
    dsimp only
    rw [numberPart_delimiter part c hc]
    dsimp only
    rw [if_pos hpart, List.reverse_reverse]

theorem finish_behind (v : JsonValue) (d : Decoder) (hd : Behind v [] d) : finish d = some v := by
  rcases hd with rfl | ⟨part, literal, rfl, hpart, rfl⟩
  · rfl
  · rw [finish]
    dsimp only
    rw [if_pos hpart, List.reverse_reverse]

/-- The decoder reads `v` back wherever a value may stand. -/
def ReadBack (v : JsonValue) : Prop :=
  ∀ stack, ∃ d, Behind v stack d ∧ feed ⟨.value, stack⟩ (encodeValue v) = some d

theorem feed_partAfter (stack : List Frame) (cs : DartString) :
    ∀ (part last : NumberPart) (literal : DartString), partAfter part cs = some last →
      feed ⟨.number part literal, stack⟩ cs =
        some ⟨.number last (cs.reverse ++ literal), stack⟩ := by
  induction cs with
  | nil =>
      intro part last literal h
      rw [partAfter, Option.some.injEq] at h
      exact h ▸ rfl
  | cons c cs ih =>
      intro part last literal h
      rw [partAfter, Option.bind_eq_some_iff] at h
      rcases h with ⟨next, hnext, hlast⟩
      have hstep : step ⟨.number part literal, stack⟩ c =
          some ⟨.number next (c :: literal), stack⟩ := by
        rw [step]
        dsimp only
        rw [hnext]
      rw [Encoder.feed_cons _ _ _ _ hstep, ih next last (c :: literal) hlast, List.reverse_cons,
        List.append_assoc]
      rfl

theorem step_beginNumber (stack : List Frame) (c : Nat) (part : NumberPart)
    (h : beginNumber c = some part) :
    step ⟨.value, stack⟩ c = some ⟨.number part [c], stack⟩ := by
  unfold beginNumber at h
  split at h
  · next hc =>
      rw [Option.some.injEq] at h
      subst hc h
      rfl
  · split at h
    · next hc =>
        rw [Option.some.injEq] at h
        subst hc h
        rfl
    · next hsign hzero =>
        split at h
        · next hdigit =>
            rw [Option.some.injEq] at h
            subst h
            have hrange := hdigit
            simp only [isDigit, Bool.and_eq_true, decide_eq_true_eq] at hrange
            have hspace : isSpace c = false := by
              simp only [isSpace, Bool.or_eq_false_iff, decide_eq_false_iff_not]
              omega
            have hstep : step ⟨.value, stack⟩ c =
                if isSpace c then some ⟨.value, stack⟩ else beginValue stack c := rfl
            rw [hstep, hspace, if_neg (by decide), beginValue, if_neg (by omega),
              if_neg (by omega), if_neg (by omega), if_neg hsign, if_neg hzero, if_pos hdigit]
        · exact absurd h.symm (Option.some_ne_none part)

theorem readBack_number (literal : DartString) (h : isLiteral literal = true) :
    ReadBack (.number literal) := by
  intro stack
  cases literal with
  | nil => exact absurd h (by decide)
  | cons c cs =>
      rw [isLiteral, Option.any_eq_true] at h
      rcases h with ⟨part, hpart, hcomplete⟩
      rw [literalPart, Option.bind_eq_some_iff] at hpart
      rcases hpart with ⟨first, hfirst, hlast⟩
      refine ⟨_, Or.inr ⟨part, c :: cs, rfl, hcomplete, rfl⟩, ?_⟩
      rw [encodeValue, Encoder.feed_cons _ _ _ _ (step_beginNumber stack c first hfirst),
        feed_partAfter stack cs first part [c] hlast, List.reverse_cons]

theorem readBack_string (s : DartString) : ReadBack (.string s) := by
  intro stack
  have hquote : step ⟨.value, stack⟩ 0x22 = some ⟨.string none [], stack⟩ := rfl
  refine ⟨_, Or.inl rfl, ?_⟩
  rw [encodeValue, Encoder.writeString, Encoder.feed_cons _ _ _ _ hquote, Encoder.feed_string,
    endString, List.reverse_reverse, feed]

/-- The first unit of a value closes no list and is no blank. -/
theorem encodeValue_first (v : JsonValue) (h : v.WellFormed) :
    ∃ c cs, encodeValue v = c :: cs ∧ isSpace c = false ∧ c ≠ 0x5D := by
  cases h with
  | null => exact ⟨_, _, rfl, rfl, by decide⟩
  | bool b =>
      cases b with
      | true => exact ⟨_, _, rfl, rfl, by decide⟩
      | false => exact ⟨_, _, rfl, rfl, by decide⟩
  | string s => exact ⟨_, _, rfl, rfl, by decide⟩
  | list items _ => exact ⟨_, _, rfl, rfl, by decide⟩
  | map members _ => exact ⟨_, _, rfl, rfl, by decide⟩
  | number literal h =>
      cases literal with
      | nil => exact absurd h (by decide)
      | cons c cs =>
          refine ⟨c, cs, rfl, ?_⟩
          have hbegin : c = 0x2D ∨ c = 0x30 ∨ isDigit c = true := by
            by_contra hnone
            rw [not_or, not_or] at hnone
            rw [isLiteral, literalPart, beginNumber, if_neg hnone.1, if_neg hnone.2.1,
              if_neg hnone.2.2, Option.bind_none] at h
            exact absurd h (by decide)
          simp only [isDigit, Bool.and_eq_true, decide_eq_true_eq] at hbegin
          simp only [isSpace, Bool.or_eq_false_iff, decide_eq_false_iff_not]
          omega

/-- In a list that has just begun, the first item begins like any value. -/
theorem feed_firstItem (v : JsonValue) (h : v.WellFormed) (stack : List Frame) :
    feed ⟨.firstItem, stack⟩ (encodeValue v) =
      feed ⟨.value, .list [] :: stack⟩ (encodeValue v) := by
  rcases encodeValue_first v h with ⟨c, cs, hcons, hspace, hne⟩
  have hstep : step ⟨.firstItem, stack⟩ c = step ⟨.value, .list [] :: stack⟩ c := by
    rw [step, step]
    dsimp only
    rw [hspace, if_neg (by decide), if_neg hne, if_neg (by decide)]
  rw [hcons, feed, feed, hstep]

/-- Behind an item, the rest of the list. -/
theorem feed_encodeItems (stack : List Frame) (items : List JsonValue)
    (hitems : ∀ v ∈ items, ReadBack v) : ∀ (done : List JsonValue) (v : JsonValue) (d : Decoder),
      Behind v (.list done :: stack) d →
      feed d (encodeItems [0x2C] items) =
        some ⟨.after (.list (done.reverse ++ v :: items)), stack⟩ := by
  induction items with
  | nil =>
      intro done v d hd
      have hstep : step d 0x5D = some ⟨.after (.list (v :: done).reverse), stack⟩ :=
        step_behind v _ d 0x5D hd rfl
      rw [encodeItems, Encoder.feed_cons _ _ _ _ hstep, feed, List.reverse_cons]
  | cons w items ih =>
      intro done v d hd
      have hcomma : step d 0x2C = some ⟨.value, .list (v :: done) :: stack⟩ :=
        step_behind v _ d 0x2C hd rfl
      rcases hitems w List.mem_cons_self (.list (v :: done) :: stack) with ⟨d', hd', hfeed⟩
      have hrest := ih (fun u hu => hitems u (List.mem_cons_of_mem w hu)) (v :: done) w d' hd'
      rw [encodeItems, List.singleton_append, Encoder.feed_cons _ _ _ _ hcomma,
        Encoder.feed_append, hfeed, Option.bind_some, hrest, List.reverse_cons, List.append_assoc]
      rfl

theorem readBack_list (items : List JsonValue) (hwell : ∀ v ∈ items, v.WellFormed)
    (hitems : ∀ v ∈ items, ReadBack v) : ReadBack (.list items) := by
  intro stack
  have hbracket : step ⟨.value, stack⟩ 0x5B = some ⟨.firstItem, stack⟩ := rfl
  refine ⟨_, Or.inl rfl, ?_⟩
  rw [encodeValue, Encoder.feed_cons _ _ _ _ hbracket]
  cases items with
  | nil => rfl
  | cons v items =>
      rcases hitems v List.mem_cons_self (.list [] :: stack) with ⟨d, hd, hfeed⟩
      rw [encodeItems, List.nil_append, Encoder.feed_append,
        feed_firstItem v (hwell v List.mem_cons_self), hfeed, Option.bind_some]
      exact feed_encodeItems stack items (fun u hu => hitems u (List.mem_cons_of_mem v hu)) [] v d
        hd

/-- A key behind its opening quote, the colon and a value. -/
theorem feed_entry (members : List (DartString × JsonValue)) (stack : List Frame)
    (key : DartString) (v : JsonValue) (hv : ReadBack v) :
    ∃ d, Behind v (.map members key :: stack) d ∧ ∀ rest,
      feed ⟨.string (some members) [], stack⟩ (Encoder.writeStringContent none key ++
        0x22 :: 0x3A :: (encodeValue v ++ rest)) = feed d rest := by
  rcases hv (.map members key :: stack) with ⟨d, hd, hfeed⟩
  refine ⟨d, hd, fun rest => ?_⟩
  have hcolon : step ⟨.colon members key, stack⟩ 0x3A =
      some ⟨.value, .map members key :: stack⟩ := rfl
  rw [Encoder.feed_string, endString, List.reverse_reverse, Encoder.feed_cons _ _ _ _ hcolon,
    Encoder.feed_append, hfeed, Option.bind_some]

/-- Behind a member, the rest of the map. -/
theorem feed_encodeMembers (stack : List Frame) (members : List (DartString × JsonValue))
    (hmembers : ∀ m ∈ members, ReadBack m.2) :
    ∀ (done : List (DartString × JsonValue)) (key : DartString) (v : JsonValue) (d : Decoder),
      Behind v (.map done key :: stack) d →
      feed d (encodeMembers [0x2C] members) =
        some ⟨.after (.map (done.reverse ++ (key, v) :: members)), stack⟩ := by
  induction members with
  | nil =>
      intro done key v d hd
      have hstep : step d 0x7D = some ⟨.after (.map ((key, v) :: done).reverse), stack⟩ :=
        step_behind v _ d 0x7D hd rfl
      rw [encodeMembers, Encoder.feed_cons _ _ _ _ hstep, feed, List.reverse_cons]
  | cons m members ih =>
      intro done key v d hd
      have hcomma : step d 0x2C = some ⟨.key ((key, v) :: done), stack⟩ :=
        step_behind v _ d 0x2C hd rfl
      have hquote : step ⟨.key ((key, v) :: done), stack⟩ 0x22 =
          some ⟨.string (some ((key, v) :: done)) [], stack⟩ := rfl
      rcases feed_entry ((key, v) :: done) stack m.1 m.2 (hmembers m List.mem_cons_self) with
        ⟨d', hd', hfeed⟩
      have hrest := ih (fun u hu => hmembers u (List.mem_cons_of_mem m hu)) ((key, v) :: done)
        m.1 m.2 d' hd'
      rw [encodeMembers, List.singleton_append, Encoder.feed_cons _ _ _ _ hcomma,
        Encoder.writeString, List.cons_append, Encoder.feed_cons _ _ _ _ hquote,
        List.append_assoc, List.singleton_append, hfeed, hrest, List.reverse_cons,
        List.append_assoc]
      rfl

theorem readBack_map (members : List (DartString × JsonValue))
    (hmembers : ∀ m ∈ members, ReadBack m.2) : ReadBack (.map members) := by
  intro stack
  have hbrace : step ⟨.value, stack⟩ 0x7B = some ⟨.firstKey, stack⟩ := rfl
  refine ⟨_, Or.inl rfl, ?_⟩
  rw [encodeValue, Encoder.feed_cons _ _ _ _ hbrace]
  cases members with
  | nil => rfl
  | cons m members =>
      have hquote : step ⟨.firstKey, stack⟩ 0x22 = some ⟨.string (some []) [], stack⟩ := rfl
      rcases feed_entry [] stack m.1 m.2 (hmembers m List.mem_cons_self) with ⟨d, hd, hfeed⟩
      rw [encodeMembers, List.nil_append, Encoder.writeString, List.cons_append,
        Encoder.feed_cons _ _ _ _ hquote, List.append_assoc, List.singleton_append, hfeed]
      exact feed_encodeMembers stack members (fun u hu => hmembers u (List.mem_cons_of_mem m hu))
        [] m.1 m.2 d hd

/-- The decoder reads a value back. -/
theorem feed_encodeValue (v : JsonValue) (h : v.WellFormed) : ReadBack v := by
  induction v using JsonValue.ind with
  | null => exact fun stack => ⟨_, Or.inl rfl, rfl⟩
  | bool b =>
      cases b with
      | true => exact fun stack => ⟨_, Or.inl rfl, rfl⟩
      | false => exact fun stack => ⟨_, Or.inl rfl, rfl⟩
  | number literal =>
      cases h with
      | number _ hliteral => exact readBack_number literal hliteral
  | string s => exact readBack_string s
  | list items ih =>
      cases h with
      | list _ hitems => exact readBack_list items hitems (fun v hv => ih v hv (hitems v hv))
  | map members ih =>
      cases h with
      | map _ hmembers => exact readBack_map members (fun m hm => ih m hm (hmembers m hm))

theorem jsonDecode_encodeValue (v : JsonValue) (h : v.WellFormed) :
    jsonDecode (encodeValue v) = some v := by
  rcases feed_encodeValue v h [] with ⟨d, hd, hfeed⟩
  rw [jsonDecode, hfeed, Option.bind_some, finish_behind v d hd]

/-- A map of strings is written as by `jsonEncode`. -/
theorem encodeValue_strings (members : List (DartString × DartString)) :
    encodeValue (.map (members.map Encoder.decoded)) = jsonEncode members := by
  have hmembers : ∀ separator, encodeMembers separator (members.map Encoder.decoded) =
      Encoder.writeMembers separator members := by
    induction members with
    | nil => exact fun separator => rfl
    | cons m members ih =>
        intro separator
        rw [List.map_cons, Encoder.decoded, encodeMembers, Encoder.writeMembers, encodeValue, ih]
  rw [encodeValue, jsonEncode, hmembers]

end Mobile

end Vena
