import Mathlib.Data.List.Basic

/-!
# The Display

`DisplayManager` writes a line of the display only when its text differs from the
one it wrote last. The bus is slow, and most of the texts stay as they are from
one second to the next. What is to be seen is nevertheless what it would be if
every call wrote all of its lines.

The driver of the display is not part of the repository, nor is `printf`, so both
are parameters. Of the driver it is assumed that a text of the width of the display,
printed from the start of a line, fills that line and no other one. The controller
puts the third line behind the first, where a longer text would run into it, which
is why the texts are cut.

## Main definitions

* `Panel`, `Panel.Lawful`: The driver, and what is assumed of it.
* `Status`, `text`: What is shown, and the text of a line.
* `fit`: A text as wide as the display.
* `showStatus`, `redraw`: Writing what has changed, and writing everything.
* `Shown`: The display shows the texts written last.

## Theorems

* `length_fit`: A text that fits has the width of the display.
* `shown_writeLineIfChanged`, `shown_writeLine`: Writing a line, with and without
  the comparison.
* `display_redrawn`: The display is the one that every call draws anew.
-/

namespace Vena

namespace Firmware

namespace DisplayManager

/-- The driver. A text on the display is the characters from left to right. -/
structure Panel (σ : Type) where
  init : σ → σ
  backlight : σ → σ
  clear : σ → σ
  setCursor : Nat → Nat → σ → σ
  print : List Char → σ → σ
  line : Nat → σ → List Char

variable {σ φ : Type}

def Panel.printAt (lcd : Panel σ) (row : Nat) (text : List Char) (s : σ) : σ :=
  lcd.print text (lcd.setCursor 0 row s)

structure Panel.Lawful (lcd : Panel σ) (cols rows : Nat) : Prop where
  clear : ∀ s, ∀ r < rows, lcd.line r (lcd.clear s) = List.replicate cols ' '
  printed : ∀ s text, ∀ r < rows, text.length = cols → lcd.line r (lcd.printAt r text s) = text
  others : ∀ s text, ∀ r < rows, ∀ q < rows, q ≠ r → text.length = cols →
    lcd.line q (lcd.printAt r text s) = lcd.line q s

/-- What `printf` makes of a number, with the width and the decimals. -/
structure Printf (φ : Type) where
  isnan : φ → Bool
  fixed : Nat → Nat → φ → List Char
  percent : φ → φ

/-- The arguments of `showStatus`. -/
structure Status (φ : Type) where
  ambT : φ
  ambH : φ
  dissT : φ
  pidOut : φ
  mqttUp : Bool

/-- `snprintf` into the buffer of `showStatus`. -/
def snprintf (text : List Char) : List Char := text.take 20

/-- The text of a line. -/
def text (c : Printf φ) (st : Status φ) : Fin 4 → List Char
  | 0 => snprintf (if c.isnan st.ambT then "Ambiente T: --.-C".toList
    else "Ambiente T:".toList ++ c.fixed 5 1 st.ambT ++ ['C'])
  | 1 => snprintf (if c.isnan st.ambH then "Ambiente U: -- %".toList
    else "Ambiente U:".toList ++ c.fixed 4 0 st.ambH ++ ['%'])
  | 2 => snprintf (if c.isnan st.dissT then "Peltier  T: --.-C".toList
    else "Peltier  T:".toList ++ c.fixed 5 1 st.dissT ++ ['C'])
  | 3 => snprintf ("PID:".toList ++ c.fixed 3 0 (c.percent st.pidOut) ++ "%  MQTT:".toList ++
    (if st.mqttUp then "OK ".toList else "OFF".toList))

/-- The text in the width of the display, by lengths of eight bits. -/
def fit (cols : Nat) (text : List Char) : List Char :=
  let padded := text ++ List.replicate (cols - text.length % 256) ' '
  if cols < padded.length % 256 then padded.take cols else padded

/-- The manager, with the display it drives. -/
structure Display (σ : Type) where
  lcd : σ
  lastLines : Fin 4 → List Char

section Manager

variable (lcd : Panel σ) (cols rows : Nat)

def begin (s : σ) : Display σ where
  lcd := lcd.clear (lcd.backlight (lcd.init s))
  lastLines := fun _ => []

def put (row : Fin 4) (text : List Char) (s : Display σ) : Display σ where
  lcd := lcd.printAt row (fit cols text) s.lcd
  lastLines := Function.update s.lastLines row text

def writeLineIfChanged (row : Fin 4) (text : List Char) (s : Display σ) : Display σ :=
  if rows ≤ row then s else if s.lastLines row = text then s else put lcd cols row text s

/-- The line is written whatever was written before. -/
def writeLine (row : Fin 4) (text : List Char) (s : Display σ) : Display σ :=
  if rows ≤ row then s else put lcd cols row text s

/-- The four lines, in the order of the source. -/
def showStatus (c : Printf φ) (s : Display σ) (st : Status φ) : Display σ :=
  [0, 1, 2, 3].foldl (fun s row => writeLineIfChanged lcd cols rows row (text c st row) s) s

/-- Every call writes all lines. -/
def redraw (c : Printf φ) (s : Display σ) (st : Status φ) : Display σ :=
  [0, 1, 2, 3].foldl (fun s row => writeLine lcd cols rows row (text c st row) s) s

/-- The display shows the texts, and the lines behind them are empty. -/
structure Shown (texts : Fin 4 → List Char) (s : Display σ) : Prop where
  last : ∀ row : Fin 4, row < rows → s.lastLines row = texts row
  line : ∀ row : Fin 4, row < rows → lcd.line row s.lcd = fit cols (texts row)
  behind : ∀ q < rows, 4 ≤ q → lcd.line q s.lcd = List.replicate cols ' '

theorem length_fit (text : List Char) (hcols : cols < 256) (htext : text.length < 256) :
    (fit cols text).length = cols := by
  unfold fit
  rw [Nat.mod_eq_of_lt htext]
  simp only [List.length_append, List.length_replicate]
  -- Either the padding is empty, or nothing is cut.
  by_cases hlong : cols < text.length
  · have hpad : cols - text.length = 0 := by omega
    rw [hpad, if_pos (by omega)]
    simp only [List.length_take, List.length_append, List.length_replicate]
    omega
  · rw [if_neg (by omega)]
    simp only [List.length_append, List.length_replicate]
    omega

theorem fit_nil : fit cols [] = List.replicate cols ' ' := by
  unfold fit
  simp only [List.length_nil, Nat.zero_mod, List.nil_append, List.length_replicate]
  rw [Nat.sub_zero, if_neg]
  have hle := Nat.mod_le cols 256
  omega

theorem length_text (c : Printf φ) (st : Status φ) (row : Fin 4) :
    (text c st row).length < 256 := by
  -- Every line goes through `snprintf`, which has a buffer of its own.
  have hcut : ∀ t : List Char, (snprintf t).length < 256 := by
    intro t
    rw [snprintf, List.length_take]
    omega
  unfold text
  split
  · exact hcut _
  · exact hcut _
  · exact hcut _
  · exact hcut _

theorem shown_begin (hlaw : lcd.Lawful cols rows) (s : σ) :
    Shown lcd cols rows (fun _ => []) (begin lcd s) := by
  refine ⟨fun row _ => rfl, fun row hrow => ?_, fun q hq _ => hlaw.clear _ q hq⟩
  rw [fit_nil]
  exact hlaw.clear _ row hrow

theorem shown_put (hlaw : lcd.Lawful cols rows) (hcols : cols < 256) (row : Fin 4)
    (x : List Char) (hx : x.length < 256) (hrow : row < rows) (texts : Fin 4 → List Char)
    (s : Display σ) (h : Shown lcd cols rows texts s) :
    Shown lcd cols rows (Function.update texts row x) (put lcd cols row x s) := by
  have hlength := length_fit cols x hcols hx
  refine ⟨fun q hq => ?_, fun q hq => ?_, fun q hq hbehind => ?_⟩
  · -- What is remembered is the text, and not what fits.
    have hlast : (put lcd cols row x s).lastLines = Function.update s.lastLines row x := rfl
    rw [hlast]
    by_cases hsame : q = row
    · rw [hsame, Function.update_self, Function.update_self]
    · rw [Function.update_of_ne hsame, Function.update_of_ne hsame]
      exact h.last q hq
  · by_cases hsame : q = row
    · rw [hsame, Function.update_self]
      exact hlaw.printed s.lcd (fit cols x) row hrow hlength
    · rw [Function.update_of_ne hsame, ← h.line q hq]
      exact hlaw.others s.lcd (fit cols x) row hrow q hq (fun heq => hsame (Fin.ext heq)) hlength
  · rw [← h.behind q hq hbehind]
    exact hlaw.others s.lcd (fit cols x) row hrow q hq (by omega) hlength

/-- What holds of a line outside the display does not matter. -/
theorem shown_congr (texts texts' : Fin 4 → List Char) (s : Display σ)
    (h : Shown lcd cols rows texts s) (hsame : ∀ row : Fin 4, row < rows → texts' row = texts row) :
    Shown lcd cols rows texts' s := by
  refine ⟨fun row hrow => ?_, fun row hrow => ?_, h.behind⟩
  · rw [hsame row hrow]
    exact h.last row hrow
  · rw [hsame row hrow]
    exact h.line row hrow

theorem shown_writeLine (hlaw : lcd.Lawful cols rows) (hcols : cols < 256) (row : Fin 4)
    (x : List Char) (hx : x.length < 256) (texts : Fin 4 → List Char) (s : Display σ)
    (h : Shown lcd cols rows texts s) :
    Shown lcd cols rows (Function.update texts row x) (writeLine lcd cols rows row x s) := by
  unfold writeLine
  by_cases hrow : rows ≤ row
  · rw [if_pos hrow]
    refine shown_congr lcd cols rows texts _ s h (fun q hq => ?_)
    have hne : q ≠ row := by
      intro heq
      rw [heq] at hq
      omega
    exact Function.update_of_ne hne x texts
  · rw [if_neg hrow]
    exact shown_put lcd cols rows hlaw hcols row x hx (Nat.lt_of_not_le hrow) texts s h

/-- The comparison saves the writing of what is there already. -/
theorem shown_writeLineIfChanged (hlaw : lcd.Lawful cols rows) (hcols : cols < 256)
    (row : Fin 4) (x : List Char) (hx : x.length < 256) (texts : Fin 4 → List Char)
    (s : Display σ) (h : Shown lcd cols rows texts s) :
    Shown lcd cols rows (Function.update texts row x)
      (writeLineIfChanged lcd cols rows row x s) := by
  have hwrite := shown_writeLine lcd cols rows hlaw hcols row x hx texts s h
  unfold writeLine at hwrite
  unfold writeLineIfChanged
  by_cases hrow : rows ≤ row
  · rw [if_pos hrow] at hwrite ⊢
    exact hwrite
  · rw [if_neg hrow] at hwrite ⊢
    by_cases hsame : s.lastLines row = x
    · -- The text is remembered, and the line is still the one printed for it.
      rw [if_pos hsame, ← hsame, h.last row (Nat.lt_of_not_le hrow), Function.update_eq_self]
      exact h
    · rw [if_neg hsame]
      exact hwrite

/-- A call that writes its four lines, in either way. -/
theorem shown_lines (c : Printf φ) (st : Status φ)
    (write : Fin 4 → List Char → Display σ → Display σ)
    (hwrite : ∀ row x, x.length < 256 → ∀ texts s, Shown lcd cols rows texts s →
      Shown lcd cols rows (Function.update texts row x) (write row x s))
    (texts : Fin 4 → List Char) (s : Display σ) (h : Shown lcd cols rows texts s) :
    Shown lcd cols rows (text c st)
      ([0, 1, 2, 3].foldl (fun s row => write row (text c st row) s) s) := by
  -- The lines written so far have the new texts, the others what they had.
  have hrows : ∀ (order : List (Fin 4)) (texts : Fin 4 → List Char) (s : Display σ),
      Shown lcd cols rows texts s →
      Shown lcd cols rows (fun row => if row ∈ order then text c st row else texts row)
        (order.foldl (fun s row => write row (text c st row) s) s) := by
    intro order
    induction order with
    | nil => exact fun texts s hs => shown_congr lcd cols rows texts _ s hs (fun row _ => rfl)
    | cons first order ih =>
        intro texts s hs
        refine shown_congr lcd cols rows _ _ _ (ih _ _ (hwrite first _ (length_text c st first)
          texts s hs)) (fun row _ => ?_)
        by_cases hin : row ∈ order
        · rw [if_pos hin, if_pos (List.mem_cons_of_mem first hin)]
        · rw [if_neg hin]
          by_cases hfirst : row = first
          · rw [hfirst, Function.update_self, if_pos List.mem_cons_self]
          · rw [Function.update_of_ne hfirst,
              if_neg (List.not_mem_cons_of_ne_of_not_mem hfirst hin)]
  have hall : ∀ row : Fin 4, row ∈ [0, 1, 2, 3] := by decide
  exact shown_congr lcd cols rows _ _ _ (hrows [0, 1, 2, 3] texts s h)
    (fun row _ => (if_pos (hall row)).symm)

theorem shown_calls (c : Printf φ) (write : Fin 4 → List Char → Display σ → Display σ)
    (hwrite : ∀ row x, x.length < 256 → ∀ texts s, Shown lcd cols rows texts s →
      Shown lcd cols rows (Function.update texts row x) (write row x s))
    (calls : List (Status φ)) : ∀ (texts : Fin 4 → List Char) (s : Display σ),
    Shown lcd cols rows texts s →
    Shown lcd cols rows (calls.foldl (fun _ st => text c st) texts)
      (calls.foldl (fun s st => [0, 1, 2, 3].foldl (fun s row => write row (text c st row) s) s)
        s) := by
  induction calls with
  | nil => exact fun texts s h => h
  | cons st calls ih =>
      intro texts s h
      exact ih _ _ (shown_lines lcd cols rows c st write hwrite texts s h)

/-- Whatever has been shown, the display is the one that every call has drawn anew, and
    its lines are those of the last call. -/
theorem display_redrawn (hlaw : lcd.Lawful cols rows) (hcols : cols < 256) (c : Printf φ)
    (calls : List (Status φ)) (s : σ) :
    (∀ q < rows, lcd.line q (calls.foldl (showStatus lcd cols rows c) (begin lcd s)).lcd =
      lcd.line q (calls.foldl (redraw lcd cols rows c) (begin lcd s)).lcd) ∧
    ∀ st ∈ calls.getLast?, ∀ row : Fin 4, row < rows →
      lcd.line row (calls.foldl (showStatus lcd cols rows c) (begin lcd s)).lcd =
        fit cols (text c st row) := by
  have hbegin := shown_begin lcd cols rows hlaw s
  -- Both displays show the texts of the last call, line by line.
  have hdiffed := shown_calls lcd cols rows c (writeLineIfChanged lcd cols rows)
    (fun row x hx texts s h => shown_writeLineIfChanged lcd cols rows hlaw hcols row x hx texts s h)
    calls _ _ hbegin
  have hfull := shown_calls lcd cols rows c (writeLine lcd cols rows)
    (fun row x hx texts s h => shown_writeLine lcd cols rows hlaw hcols row x hx texts s h)
    calls _ _ hbegin
  refine ⟨fun q hq => ?_, fun st hst row hrow => ?_⟩
  · by_cases hfour : q < 4
    · exact (hdiffed.line ⟨q, hfour⟩ hq).trans (hfull.line ⟨q, hfour⟩ hq).symm
    · exact (hdiffed.behind q hq (by omega)).trans (hfull.behind q hq (by omega)).symm
  · rcases List.getLast?_eq_some_iff.mp hst with ⟨earlier, hcalls⟩
    have hlast : calls.foldl (fun _ st => text c st) (fun _ => []) = text c st := by
      rw [hcalls, List.foldl_append]
      rfl
    rw [hlast] at hdiffed
    exact hdiffed.line row hrow

end Manager

section Demo

/-- The memory of the controller and the address it writes next. -/
structure Ddram where
  address : Nat
  ram : Nat → Char

/-- Where the lines are in the memory. -/
def offset : Nat → Nat
  | 0 => 0x00
  | 1 => 0x40
  | 2 => 0x14
  | _ => 0x54

/-- A display of four lines of twenty characters. -/
def hd44780 : Panel Ddram where
  init := id
  backlight := id
  clear := fun _ => ⟨0, fun _ => ' '⟩
  setCursor := fun col row s => { s with address := offset row + col }
  print := fun text s =>
    { address := s.address + text.length
      ram := fun a => if s.address ≤ a then text.getD (a - s.address) (s.ram a) else s.ram a }
  line := fun row s => (List.range 20).map (fun col => s.ram (offset row + col))

theorem offset_apart : ∀ r < 4, ∀ q < 4, q ≠ r →
    offset q + 20 ≤ offset r ∨ offset r + 20 ≤ offset q := by decide

theorem lawful_hd44780 : hd44780.Lawful 20 4 := by
  refine ⟨fun s r _ => ?_, fun s text r _ hlength => ?_, fun s text r hr q hq hne hlength => ?_⟩
  · rfl
  · refine List.ext_getElem ?_ (fun i hi hi' => ?_)
    · rw [hlength]
      exact (List.length_map _).trans List.length_range
    · simp only [hd44780, Panel.printAt, List.getElem_map, List.getElem_range, Nat.add_zero]
      rw [if_pos (Nat.le_add_right _ _), Nat.add_sub_cancel_left, List.getD_eq_getElem?_getD,
        List.getElem?_eq_getElem hi', Option.getD_some]
  · simp only [hd44780, Panel.printAt, Nat.add_zero]
    refine List.map_congr_left (fun col hcol => ?_)
    rw [List.mem_range] at hcol
    -- The characters of the other line lie before or behind those printed.
    rcases offset_apart r hr q hq hne with hbefore | hbehind
    · rw [if_neg (by omega)]
    · rw [if_pos (by omega), List.getD_eq_getElem?_getD, List.getElem?_eq_none (by omega),
        Option.getD_none]

def decimal : Printf (Option Nat) where
  isnan := Option.isNone
  fixed := fun width _ x => List.leftpad width ' ' (Nat.toDigits 10 (x.getD 0))
  percent := fun x => x.map (fun n => n * 100 / 255)

/-- The humidity changes, and the broker is reached. -/
def shownTwice : List (Status (Option Nat)) :=
  [⟨some 25, some 60, none, some 255, false⟩, ⟨some 25, some 61, none, some 255, true⟩]

def switchedOn : Ddram := ⟨0, fun _ => '?'⟩

theorem display_redrawn_twice :
    (∀ q < 4, hd44780.line q
        (shownTwice.foldl (showStatus hd44780 20 4 decimal) (begin hd44780 switchedOn)).lcd =
      hd44780.line q
        (shownTwice.foldl (redraw hd44780 20 4 decimal) (begin hd44780 switchedOn)).lcd) ∧
    hd44780.line 1
        (shownTwice.foldl (showStatus hd44780 20 4 decimal) (begin hd44780 switchedOn)).lcd =
      "Ambiente U:  61%    ".toList := by
  have hredrawn := display_redrawn hd44780 20 4 lawful_hd44780 (by decide) decimal shownTwice
    switchedOn
  exact ⟨hredrawn.1, (hredrawn.2 _ rfl 1 (by decide)).trans (by decide)⟩

end Demo

end DisplayManager

end Firmware

end Vena
