import Vena.Backend.BoardMessages
import Vena.Backend.TokenText
import Vena.Core.Utf8

/-!
# The Route of the Boot Reports

`GET /devices/{id}/meta` answers with the document that `_handle_meta` stored
last, or with one of two answers 404. What is rendered is a dictionary, without
blanks, and the column has its own order of the members.

## Main definitions

* `deviceMeta`: The route, over `get_device_meta`.
* `render`: `json.dumps` as `JSONResponse` calls it.

## Theorems

* `deviceMeta_ok`, `deviceMeta_none`: When there is a document, and when there is none.
* `render_dictOf`: A document of the firmware is rendered as the firmware printed it.
-/

namespace Vena

namespace Backend

open Python Firmware

/-- `get_device_meta`. Without the device it raises `DeviceNotFound`. -/
def getDeviceMeta (db : Ingest.Store) (deviceId : String) : Option (Option Ingest.DeviceMeta) :=
  if deviceId ∈ db.devices.map Device.id then
    some (db.deviceMeta.find? (fun row => row.deviceId = deviceId))
  else none

/-- The route `device_meta`. -/
def deviceMeta (db : Ingest.Store) (deviceId : String) : Reply Ingest.DeviceMeta :=
  -- PostgreSQL takes no text with a NUL, and nobody catches what it raises.
  if !pgText deviceId then .crash
  else match getDeviceMeta db deviceId with
    | none => .error 404 ("Device '" ++ deviceId ++ "' not found")
    | some none => .error 404 ("No meta published yet for device '" ++ deviceId ++ "'")
    | some (some row) => .ok row

/-- A device that has a document is there. -/
theorem deviceMeta_ok (db : Ingest.Store) (deviceId : String) (htext : pgText deviceId = true)
    (payload : PyVal) (h : db.document deviceId = some payload) :
    ∃ row ∈ db.deviceMeta, deviceMeta db deviceId = .ok row ∧ row.deviceId = deviceId ∧
      row.payload = payload := by
  rw [Ingest.Store.document, Option.map_eq_some_iff] at h
  obtain ⟨row, hfind, hpayload⟩ := h
  have hrow := List.mem_of_find?_eq_some hfind
  have hid := List.find?_some hfind
  rw [decide_eq_true_eq] at hid
  -- The foreign key: whoever has a document is a device.
  have hdevice := db.metaFk row hrow
  rw [hid] at hdevice
  refine ⟨row, hrow, ?_, hid, hpayload⟩
  rw [deviceMeta, htext, getDeviceMeta, if_pos hdevice, hfind]
  rfl

theorem deviceMeta_none (db : Ingest.Store) (deviceId : String) (htext : pgText deviceId = true)
    (h : db.document deviceId = none) : ∃ detail, deviceMeta db deviceId = .error 404 detail := by
  rw [Ingest.Store.document, Option.map_eq_none_iff] at h
  rw [deviceMeta, htext, getDeviceMeta]
  by_cases hdevice : deviceId ∈ db.devices.map Device.id
  · rw [if_pos hdevice, h]
    exact ⟨_, rfl⟩
  · rw [if_neg hdevice]
    exact ⟨_, rfl⟩

section Render

/-- One character in the text of `py_encode_basestring`. -/
def escapeBasestring (c : Nat) : PyStr :=
  match escapeLetter c with
  | some letter => [0x5C, letter]
  | none => if c < 0x20 then escapeUnit c else [c]

def renderString (s : PyStr) : PyStr := 0x22 :: (s.flatMap escapeBasestring ++ [0x22])

variable (repr : PyFloat → PyStr)

mutual

/-- `json.dumps` with the separators of `JSONResponse`, which leaves what is not
    ASCII as it is. -/
def render : PyVal → PyStr
  | .none => PyStr.ofString "null"
  | .bool true => PyStr.ofString "true"
  | .bool false => PyStr.ofString "false"
  | .int n => writeInteger n
  | .float x => repr x
  | .str s => renderString s
  | .list items => 0x5B :: renderItems [] items
  | .dict items => 0x7B :: renderMembers [] items

/-- The items and the closing bracket. -/
def renderItems (separator : PyStr) : List PyVal → PyStr
  | [] => [0x5D]
  | v :: items => separator ++ (render v ++ renderItems [0x2C] items)

/-- The members and the closing brace. -/
def renderMembers (separator : PyStr) : List (PyStr × PyVal) → PyStr
  | [] => [0x7D]
  | (key, v) :: items =>
    separator ++ (renderString key ++ 0x3A :: (render v ++ renderMembers [0x2C] items))

end

/-- What needs no escapes has none. -/
theorem renderString_plain (s : PyStr) (h : Python.Plain s) :
    renderString s = 0x22 :: (s ++ [0x22]) := by
  have hcontent : s.flatMap escapeBasestring = s := by
    refine (List.flatMap_congr (fun c hc => ?_)).trans (List.flatMap_singleton' s)
    obtain ⟨hlow, hquote, hbackslash⟩ := h c hc
    -- None of the letters stands for such a character.
    have hletter : escapeLetter c = none := by
      rw [escapeLetter, if_neg hbackslash, if_neg hquote, if_neg (by omega), if_neg (by omega),
        if_neg (by omega), if_neg (by omega), if_neg (by omega)]
    rw [escapeBasestring, hletter]
    exact if_neg (by omega)
  rw [renderString, hcontent]

variable {φ : Type} (decompose : φ → Option FloatParts)

/-- Nothing but integers, booleans and strings without escapes, under such keys. -/
structure PlainDoc (doc : List (String × JsonField φ)) : Prop where
  keys : ∀ m ∈ doc, Python.Plain (ascii m.1)
  texts : ∀ m ∈ doc, ∀ s, m.2 = .text s → Python.Plain (ascii s)
  floats : ∀ m ∈ doc, ∀ x, m.2 ≠ .float x

theorem render_value (f : JsonField φ) (htext : ∀ s, f = .text s → Python.Plain (ascii s))
    (hfloat : ∀ x, f ≠ .float x) :
    render repr (Ingest.value decompose f) = f.write decompose := by
  cases f with
  | integer n => rfl
  | float x => exact absurd rfl (hfloat x)
  | boolean b =>
      cases b with
      | true => rfl
      | false => rfl
  | text s => exact renderString_plain _ (htext s rfl)

theorem renderMembers_dictOf (doc : List (String × JsonField φ)) (h : PlainDoc doc) :
    renderMembers repr [] (Ingest.dictOf decompose doc) = writeMembers decompose doc ++ [0x7D] := by
  obtain ⟨hkeys, htexts, hfloats⟩ := h
  have hmember : ∀ m ∈ doc, ∀ rest, renderString (ascii m.1) ++ 0x3A ::
      (render repr (Ingest.value decompose m.2) ++ rest) = writeMember decompose m ++ rest := by
    intro m hm rest
    rw [renderString_plain _ (hkeys m hm),
      render_value repr decompose m.2 (htexts m hm) (hfloats m hm), writeMember]
    simp only [List.cons_append, List.append_assoc, List.nil_append]
  clear hkeys htexts hfloats
  -- A comma is put before a member here, and behind one in the firmware.
  induction doc with
  | nil => rfl
  | cons m doc ih =>
      rw [List.forall_mem_cons] at hmember
      have hrest := ih hmember.2
      rw [Ingest.dictOf, List.map_cons, renderMembers, List.nil_append, hmember.1]
      cases doc with
      | nil => rfl
      | cons n doc =>
          rw [Ingest.dictOf, List.map_cons, renderMembers, List.nil_append] at hrest
          rw [List.map_cons, renderMembers, List.singleton_append, hrest, writeMembers,
            List.append_assoc, List.cons_append]

/-- A document of the firmware is rendered as the firmware would print it. -/
theorem render_dictOf (doc : List (String × JsonField φ)) (h : PlainDoc doc) :
    render repr (.dict (Ingest.dictOf decompose doc)) = compactJson decompose doc := by
  rw [render, renderMembers_dictOf repr decompose doc h, compactJson]

end Render

end Backend

end Vena
