import Vena.Backend.TokenText
import Vena.Mobile.BoardTelemetry
import Vena.Mobile.MqttService

/-!
# The Expiry of a Token

The app renews its MQTT token five minutes before that expires. It reads the
expiry out of the token it was given, without the key: the second of three parts
between points is padded, decoded from base64 and UTF-8 and read as JSON.

What the backend signs is read back whatever is in the claims. A device id may
have any characters; `json.dumps` escapes those that are not ASCII by their
UTF-16 units, which is what a Dart string consists of.

`base64Url` takes both alphabets, and `%3D` for the padding.

## Main definitions

* `base64Decode`: `base64Url.decode`.
* `parseJwtExp`: The expiry in a token.
* `storedToken`: What `_scheduleTokenRefresh` finds in the storage.
* `decoded`: A claim as the app reads it.

## Theorems

* `jsonDecode_dumps`: The dictionary is read back.
* `base64Decode_padded`: So are the bytes.
* `parseJwtExp_token`: The expiry of a token the backend signed.
-/

namespace Vena

namespace Mobile

open Decoder Backend

namespace TokenExpiry

/-- The six bits of a character, in either alphabet. -/
def base64Value (c : Nat) : Option Nat :=
  if 0x41 ≤ c ∧ c ≤ 0x5A then some (c - 0x41)
  else if 0x61 ≤ c ∧ c ≤ 0x7A then some (c - 0x61 + 26)
  else if 0x30 ≤ c ∧ c ≤ 0x39 then some (c - 0x30 + 52)
  else if c = 0x2B ∨ c = 0x2D then some 62
  else if c = 0x2F ∨ c = 0x5F then some 63
  else none

/-- That many paddings and nothing else. -/
def isPadding : Nat → DartString → Bool
  | 0, text => text = []
  | n + 1, 0x3D :: text => isPadding n text
  | n + 1, 0x25 :: 0x33 :: 0x44 :: text => isPadding n text
  | n + 1, 0x25 :: 0x33 :: 0x64 :: text => isPadding n text
  | _ + 1, _ => false

/-- `base64Url.decode`: the groups up to the padding, which fills up the last four. -/
def base64Decode (text : DartString) : Option (List UInt8) :=
  let groups := text.takeWhile (fun c => c ≠ 0x3D && c ≠ 0x25)
  if isPadding ((4 - groups.length % 4) % 4) (text.drop groups.length) then
    (groups.mapM base64Value).bind (fun groups =>
      (Base64.octets groups).map (fun bytes => bytes.map UInt8.ofNat))
  else none

/-- The loop that pads the payload. -/
def padded (payload : DartString) : DartString :=
  if payload.length % 4 ≠ 0 then padded (payload ++ [0x3D]) else payload
termination_by (4 - payload.length % 4) % 4
decreasing_by
  rw [List.length_append, List.length_singleton]
  omega

/-- `_parseJwtExp`. -/
def parseJwtExp (jwt : DartString) : Option DartInt :=
  match jwt.splitOn 0x2E with
  | [_, payload, _] => do
    let bytes ← base64Decode (padded payload)
    let decoded ← jsonDecode (← utf8Decode bytes)
    (field (← decoded.asMap) "exp").asInt
  | _ => none

/-- What `_scheduleTokenRefresh` finds in the storage, `now` milliseconds after the
    epoch. -/
def storedToken (token : Option DartString) (now : Int) : MqttService.StoredToken :=
  match token with
  | none => .absent
  | some jwt => match parseJwtExp jwt with
    | none => .malformed
    | some exp => .expiring exp.1 (now.tdiv 1000)

section Dumps

variable (members : Option (List (DartString × JsonValue))) (units : DartString)
  (stack : List Frame)

theorem hexCode_eq (d : Nat) (h : d < 16) : Python.hexCode d = Encoder.hexDigit d := by
  have hall : ∀ d < 16, Python.hexCode d = Encoder.hexDigit d := by decide
  exact hall d h

/-- The decoder reads back an escaped unit. -/
theorem feed_escapeUnit (n : Nat) (h : n < 0x10000) :
    feed ⟨.string members units, stack⟩ (Backend.escapeUnit n) =
      some ⟨.string members (n :: units), stack⟩ := by
  -- The four digits are those of the unit.
  have hvalue : ((n / 0x1000 * 16 + n / 0x100 % 16) * 16 + n / 0x10 % 16) * 16 + n % 16 = n := by
    omega
  have hfeed := Encoder.feed_hex members units stack (n / 0x1000) (n / 0x100 % 16) (n / 0x10 % 16)
    (n % 16) (by omega) (by omega) (by omega) (by omega)
  rw [hvalue] at hfeed
  rw [Backend.escapeUnit, hexCode_eq _ (by omega), hexCode_eq _ (by omega),
    hexCode_eq _ (by omega), hexCode_eq _ (by omega), hfeed]

/-- The decoder reads back a character. -/
theorem feed_escapeAscii (c : Char) :
    feed ⟨.string members units, stack⟩ (escapeAscii c.toNat) =
      some ⟨.string members ((utf16Units c).reverse ++ units), stack⟩ := by
  have hbounds := char_bounds c
  rw [escapeAscii]
  split
  -- A letter behind a backslash stands for the character it is in the table for.
  · next letter hletter =>
      have hlow : c.toNat < 0x80 := escapeLetter_lt _ _ hletter
      have hall : ∀ n < 0x80, ∀ letter ∈ escapeLetter n, letter ≠ 0x75 ∧
          escapedUnit letter = some n := by decide
      rcases hall c.toNat hlow letter hletter with ⟨hne, hunit⟩
      rw [Encoder.feed_escaped members units stack letter c.toNat hne hunit, utf16Units,
        if_pos (by omega)]
      rfl
  · next hnone =>
      by_cases hplain : 0x20 ≤ c.toNat ∧ c.toNat ≤ 0x7E
      · have hquote : c.toNat ≠ 0x22 := by
          intro heq
          rw [heq] at hnone
          exact absurd hnone (by decide)
        have hbackslash : c.toNat ≠ 0x5C := by
          intro heq
          rw [heq] at hnone
          exact absurd hnone (by decide)
        rw [if_pos hplain, utf16Units, if_pos (by omega),
          Encoder.feed_plain members units stack c.toNat hplain.1 hquote hbackslash]
        rfl
      · rw [if_neg hplain]
        by_cases hunit : c.toNat < 0x10000
        · rw [if_pos hunit, feed_escapeUnit members units stack _ hunit, utf16Units, if_pos hunit]
          rfl
        -- A character outside the plane is escaped as the two units it has in Dart.
        · rw [if_neg hunit, Encoder.feed_append,
            feed_escapeUnit members units stack _ (by omega), Option.bind_some,
            feed_escapeUnit members _ stack _ (by omega), utf16Units, if_neg hunit]
          rfl

theorem feed_dumpsContent (s : List Char) : ∀ units : DartString,
    feed ⟨.string members units, stack⟩ (s.flatMap (fun c => escapeAscii c.toNat)) =
      some ⟨.string members ((s.flatMap utf16Units).reverse ++ units), stack⟩ := by
  induction s with
  | nil => exact fun units => rfl
  | cons c s ih =>
      intro units
      rw [List.flatMap_cons, Encoder.feed_append, feed_escapeAscii, Option.bind_some, ih,
        List.flatMap_cons, List.reverse_append, List.append_assoc]

/-- From behind the opening quote to behind the closing one. -/
theorem feed_dumpsString (s : String) (rest : DartString) :
    feed ⟨.string members [], stack⟩ (dumpsContent s ++ 0x22 :: rest) =
      feed (endString stack members (dartString s).reverse) rest := by
  have hstep : step ⟨.string members (dartString s).reverse, stack⟩ 0x22 =
      some (endString stack members (dartString s).reverse) := rfl
  have hcontent : feed ⟨.string members [], stack⟩ (dumpsContent s) =
      some ⟨.string members (dartString s).reverse, stack⟩ := by
    rw [dumpsContent, feed_dumpsContent, List.append_nil]
    rfl
  rw [Encoder.feed_append, hcontent, Option.bind_some, Encoder.feed_cons _ _ _ _ hstep]

end Dumps

/-- A claim as the app reads it. -/
def decoded : ClaimValue → JsonValue
  | .text s => .string (dartString s)
  | .texts items => .list (items.map (fun s => .string (dartString s)))
  | .number n => .number (intText n)

/-- Behind an item, the rest of the list. -/
theorem feed_dumpsItems (stack : List Frame) (items : List String) :
    ∀ (done : List JsonValue) (v : JsonValue),
      feed ⟨.after v, .list done :: stack⟩ (dumpsItems [0x2C] items) =
        some ⟨.after (.list (done.reverse ++ v :: items.map (fun s => .string (dartString s)))),
          stack⟩ := by
  induction items with
  | nil =>
      intro done v
      have hstep : step ⟨.after v, .list done :: stack⟩ 0x5D =
          some ⟨.after (.list (v :: done).reverse), stack⟩ := rfl
      rw [dumpsItems, Encoder.feed_cons _ _ _ _ hstep, feed, List.reverse_cons, List.map_nil]
  | cons s items ih =>
      intro done v
      -- A comma, a quote, the text, and then the items that are left.
      have hcomma : step ⟨.after v, .list done :: stack⟩ 0x2C =
          some ⟨.value, .list (v :: done) :: stack⟩ := rfl
      have hquote : step ⟨.value, .list (v :: done) :: stack⟩ 0x22 =
          some ⟨.string none [], .list (v :: done) :: stack⟩ := rfl
      rw [dumpsItems, List.singleton_append, Encoder.feed_cons _ _ _ _ hcomma, dumpsString,
        List.cons_append, Encoder.feed_cons _ _ _ _ hquote, List.append_assoc,
        List.singleton_append, feed_dumpsString, endString, List.reverse_reverse, ih,
        List.reverse_cons, List.append_assoc, List.map_cons]
      rfl

/-- The decoder reads back a claim. -/
theorem feed_dumps (v : ClaimValue) (stack : List Frame) :
    ∃ d, Behind (decoded v) stack d ∧ feed ⟨.value, stack⟩ v.dumps = some d := by
  cases v with
  | text s =>
      have hquote : step ⟨.value, stack⟩ 0x22 = some ⟨.string none [], stack⟩ := rfl
      refine ⟨_, Or.inl rfl, ?_⟩
      rw [ClaimValue.dumps, dumpsString, Encoder.feed_cons _ _ _ _ hquote, feed_dumpsString,
        endString, List.reverse_reverse, feed]
      rfl
  | texts items =>
      have hbracket : step ⟨.value, stack⟩ 0x5B = some ⟨.firstItem, stack⟩ := rfl
      refine ⟨_, Or.inl rfl, ?_⟩
      rw [ClaimValue.dumps, Encoder.feed_cons _ _ _ _ hbracket]
      cases items with
      | nil => rfl
      | cons s items =>
          have hquote : step ⟨.firstItem, stack⟩ 0x22 =
              some ⟨.string none [], .list [] :: stack⟩ := rfl
          rw [dumpsItems, List.nil_append, dumpsString, List.cons_append,
            Encoder.feed_cons _ _ _ _ hquote, List.append_assoc, List.singleton_append,
            feed_dumpsString, endString, List.reverse_reverse]
          exact feed_dumpsItems stack items [] (.string (dartString s))
  | number n =>
      have htext : Python.Literal.intText n = intText n := writeInteger_eq n
      rw [ClaimValue.dumps, htext]
      exact readBack_number _ (isLiteral_intText n) stack

/-- A key behind its opening quote, the colon and a claim. -/
theorem feed_claim (members : List (DartString × JsonValue)) (stack : List Frame) (key : String)
    (v : ClaimValue) :
    ∃ d, Behind (decoded v) (.map members (dartString key) :: stack) d ∧ ∀ rest,
      feed ⟨.string (some members) [], stack⟩
        (dumpsContent key ++ 0x22 :: 0x3A :: (v.dumps ++ rest)) = feed d rest := by
  rcases feed_dumps v (.map members (dartString key) :: stack) with ⟨d, hd, hfeed⟩
  refine ⟨d, hd, fun rest => ?_⟩
  have hcolon : step ⟨.colon members (dartString key), stack⟩ 0x3A =
      some ⟨.value, .map members (dartString key) :: stack⟩ := rfl
  rw [feed_dumpsString, endString, List.reverse_reverse, Encoder.feed_cons _ _ _ _ hcolon,
    Encoder.feed_append, hfeed, Option.bind_some]

/-- A member of the dictionary. -/
def decodedMember (m : String × ClaimValue) : DartString × JsonValue :=
  (dartString m.1, decoded m.2)

/-- Behind a claim, the rest of the dictionary. -/
theorem feed_dumpsMembers (stack : List Frame) (members : List (String × ClaimValue)) :
    ∀ (done : List (DartString × JsonValue)) (key : DartString) (v : JsonValue) (d : Decoder),
      Behind v (.map done key :: stack) d →
      feed d (dumpsMembers [0x2C] members) =
        some ⟨.after (.map (done.reverse ++ (key, v) :: members.map decodedMember)), stack⟩ := by
  induction members with
  | nil =>
      intro done key v d hd
      have hstep : step d 0x7D = some ⟨.after (.map ((key, v) :: done).reverse), stack⟩ :=
        step_behind v _ d 0x7D hd rfl
      rw [dumpsMembers, Encoder.feed_cons _ _ _ _ hstep, feed, List.reverse_cons, List.map_nil]
  | cons m members ih =>
      intro done key v d hd
      -- A comma, the next key and its claim, and then what is left.
      have hcomma : step d 0x2C = some ⟨.key ((key, v) :: done), stack⟩ :=
        step_behind v _ d 0x2C hd rfl
      have hquote : step ⟨.key ((key, v) :: done), stack⟩ 0x22 =
          some ⟨.string (some ((key, v) :: done)) [], stack⟩ := rfl
      rcases feed_claim ((key, v) :: done) stack m.1 m.2 with ⟨d', hd', hfeed⟩
      rw [dumpsMembers, List.singleton_append, Encoder.feed_cons _ _ _ _ hcomma, dumpsString,
        List.cons_append, Encoder.feed_cons _ _ _ _ hquote, List.append_assoc,
        List.singleton_append, hfeed, ih _ _ _ d' hd', List.reverse_cons, List.append_assoc,
        List.map_cons]
      rfl

/-- The dictionary is read back. -/
theorem jsonDecode_dumps (members : List (String × ClaimValue)) :
    jsonDecode (dumps members) = some (.map (members.map decodedMember)) := by
  have hbrace : step ⟨.value, []⟩ 0x7B = some ⟨.firstKey, []⟩ := rfl
  rw [jsonDecode, dumps, Encoder.feed_cons _ _ _ _ hbrace]
  cases members with
  | nil => rfl
  | cons m members =>
      have hquote : step ⟨.firstKey, []⟩ 0x22 = some ⟨.string (some []) [], []⟩ := rfl
      rcases feed_claim [] [] m.1 m.2 with ⟨d, hd, hfeed⟩
      have hrest := feed_dumpsMembers [] members [] (dartString m.1) (decoded m.2) d hd
      rw [dumpsMembers, List.nil_append, dumpsString, List.cons_append,
        Encoder.feed_cons _ _ _ _ hquote, List.append_assoc, List.singleton_append, hfeed, hrest]
      rfl

/-- The claims end with the expiry. -/
theorem field_exp (c : Claims) :
    field ((claimsDict c).map decodedMember) "exp" = .number (intText c.exp) := by
  rw [field, lookup, claimsDict]
  -- Dart takes the last member of a name, and `exp` is the last of all.
  simp only [List.map_append, List.map_cons, List.map_nil, List.reverse_append, List.reverse_cons,
    List.reverse_nil, List.nil_append, List.cons_append, List.append_assoc, List.find?_cons,
    decodedMember, decide_true, decoded]

/-- A character of the alphabet has its six bits. -/
theorem base64Value_digit (n : Nat) (h : n < 64) :
    base64Value (Base64.digit n) = some n := by
  have hall : ∀ n < 64, base64Value (Base64.digit n) = some n := by decide
  exact hall n h

theorem mapM_digits (groups : List Nat) (h : ∀ n ∈ groups, n < 64) :
    (groups.map Base64.digit).mapM base64Value = some groups := by
  induction groups with
  | nil => rfl
  | cons n groups ih =>
      rw [List.map_cons, List.mapM_cons, base64Value_digit n (h n List.mem_cons_self),
        ih (fun m hm => h m (List.mem_cons_of_mem n hm))]
      rfl

/-- What the loop adds. -/
theorem padded_eq (payload : DartString) :
    padded payload = payload ++ List.replicate ((4 - payload.length % 4) % 4) 0x3D := by
  fun_induction padded payload with
  | case1 payload hne ih =>
      -- Each turn of the loop adds one of the paddings that are missing.
      have hcount : (4 - payload.length % 4) % 4 =
          (4 - (payload ++ [0x3D]).length % 4) % 4 + 1 := by
        rw [List.length_append, List.length_singleton]
        omega
      rw [ih, hcount, List.replicate_succ, List.append_assoc, List.singleton_append]
  | case2 payload hzero =>
      have hcount : (4 - payload.length % 4) % 4 = 0 := by omega
      rw [hcount, List.replicate_zero, List.append_nil]

theorem isPadding_replicate (n : Nat) : isPadding n (List.replicate n 0x3D) = true := by
  induction n with
  | zero => rfl
  | succ n ih =>
      rw [List.replicate_succ, isPadding]
      exact ih

/-- The bytes are read back. -/
theorem base64Decode_padded (bytes : List Nat) (h : ∀ b ∈ bytes, b < 256) :
    base64Decode (padded (Base64.encode bytes)) = some (bytes.map UInt8.ofNat) := by
  -- No character of the alphabet begins a padding.
  have hgroups : (padded (Base64.encode bytes)).takeWhile (fun c => c ≠ 0x3D && c ≠ 0x25) =
      Base64.encode bytes := by
    have hnone : (List.replicate ((4 - (Base64.encode bytes).length % 4) % 4) 0x3D).takeWhile
        (fun c => c ≠ 0x3D && c ≠ 0x25) = [] :=
      List.takeWhile_replicate.trans (if_neg (by decide))
    rw [padded_eq, List.takeWhile_append_of_pos, hnone, List.append_nil]
    intro c hc
    have hdigit := Base64.mem_encode bytes h c hc
    simp only [ne_eq, Bool.and_eq_true, decide_eq_true_eq]
    unfold Base64.Digit at hdigit
    omega
  rw [base64Decode]
  simp only [hgroups]
  rw [padded_eq, List.drop_left, isPadding_replicate, if_pos rfl, Base64.encode,
    mapM_digits _ (Base64.sextets_lt bytes h), Option.bind_some, Base64.octets_sextets bytes h,
    Option.map_some]

/-- A signed token, in three parts. -/
theorem dartString_ascii (token : String) (text : List Nat)
    (htext : Python.PyStr.ofString token = text) (hascii : ∀ u ∈ text, u < 0x80) :
    dartString token = text := by
  have hunits : ∀ c ∈ token.toList, utf16Units c = [c.toNat] := by
    intro c hc
    have hlt := hascii c.toNat (htext ▸ List.mem_map_of_mem hc)
    rw [utf16Units, if_pos (by omega)]
  rw [dartString, List.flatMap_congr hunits, ← htext, Python.PyStr.ofString, List.map_eq_flatMap]

/-- The expiry of a token the backend signed. -/
theorem parseJwtExp_token (env : Env) (hcompact : Compact env.encode) (c : Claims)
    (hexp : IsInt64 c.exp) : parseJwtExp (dartString (env.encode c)) = some ⟨c.exp, hexp⟩ := by
  rcases hcompact.serialized c with ⟨header, signature, hheader, hsignature, htext⟩
  let payload := dumps (claimsDict c)
  have hpayload : ∀ b ∈ payload, b < 256 := by
    intro b hb
    have hb := ascii_dumps (claimsDict c) b hb
    omega
  -- A character of the alphabet is in ASCII and is no point.
  have hdigit : ∀ bytes : List Nat, (∀ b ∈ bytes, b < 256) →
      ∀ u ∈ Base64.encode bytes, u < 0x80 ∧ u ≠ 0x2E := by
    intro bytes hbytes u hu
    have hu := Base64.mem_encode bytes hbytes u hu
    unfold Base64.Digit at hu
    omega
  -- The three parts have no point in them.
  have hparts : (dartString (env.encode c)).splitOn 0x2E =
      [Base64.encode header, Base64.encode payload, Base64.encode signature] := by
    have hjoin : dartString (env.encode c) = [0x2E].intercalate
        [Base64.encode header, Base64.encode payload, Base64.encode signature] := by
      refine (dartString_ascii _ _ htext ?_).trans ?_
      · intro u hu
        simp only [List.mem_append, List.mem_cons] at hu
        rcases hu with hu | rfl | hu | rfl | hu
        · exact (hdigit header hheader u hu).1
        · decide
        · exact (hdigit payload hpayload u hu).1
        · decide
        · exact (hdigit signature hsignature u hu).1
      · simp only [List.intercalate_cons_cons, List.intercalate_singleton, List.append_assoc,
          List.singleton_append, payload]
    rw [hjoin]
    refine List.splitOn_intercalate _ ?_ (List.cons_ne_nil _ _)
    simp only [List.forall_mem_cons]
    exact ⟨fun h => (hdigit header hheader _ h).2 rfl, fun h => (hdigit payload hpayload _ h).2 rfl,
      fun h => (hdigit signature hsignature _ h).2 rfl, fun l hl => absurd hl List.not_mem_nil⟩
  have hnumber : (JsonValue.number (intText c.exp)).asInt = some ⟨c.exp, hexp⟩ := by
    rw [MqttMessageHandler.asInt_eq_some]
    exact ⟨_, rfl, readNumber_intText ⟨c.exp, hexp⟩⟩
  rw [parseJwtExp, hparts]
  simp only [Option.bind_eq_bind, base64Decode_padded payload hpayload, Option.bind_some,
    utf8Decode_ascii payload (ascii_dumps _), jsonDecode_dumps, JsonValue.asMap, field_exp,
    hnumber, payload]

end TokenExpiry

end Mobile

end Vena
