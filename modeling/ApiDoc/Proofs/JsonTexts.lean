import ApiDoc.Json
import ApiDoc.Text.Blank
import Mathlib.Data.List.Forall2

/-!
# Texts of JSON values

A JSON value can be told from its text, compact or laid out:

    j.compact = k.compact ↔ j = k                                   (compact_inj)
    j.pretty = k.pretty ↔ j = k                                     (pretty_inj)

A compact text shows where it ends, whatever follows, as long as no digit follows
(`Separable`).  The laid out text is the compact one with blanks between its marks
(`withoutBlanks_pretty`).
-/

namespace ApiDoc.Json

/-! ## Strings -/

/-- The value of a hexadecimal digit. -/
def hexValue (c : Char) : Nat := if c.isDigit then c.toNat - 48 else c.toNat - 87

/-- What a character behind a backslash stands for. -/
def shortEscape (c : Char) : Char :=
  if c = 'n' then '\n' else if c = 'r' then '\r' else if c = 't' then '\t'
  else if c = 'b' then '\x08' else if c = 'f' then '\x0c' else c

theorem hexValue_digitChar : ∀ n < 16, hexValue (Nat.digitChar n) = n := by
  decide

theorem digitChar_plain : ∀ n < 16, Nat.digitChar n ≠ '"' ∧ Nat.digitChar n ≠ '\\' := by
  decide

/-- How a character can be written. -/
inductive Escaped (c : Char) : List Char → Prop
  | plain (hquote : c ≠ '"') (hbackslash : c ≠ '\\') : Escaped c [c]
  | short {x : Char} (hx : x ≠ 'u') (hc : shortEscape x = c) : Escaped c ['\\', x]
  | code {a b : Char} (ha : a ≠ '"' ∧ a ≠ '\\') (hb : b ≠ '"' ∧ b ≠ '\\')
    (hc : Char.ofNat (16 * hexValue a + hexValue b) = c) : Escaped c ['\\', 'u', '0', '0', a, b]

theorem escaped_escape (c : Char) : Escaped c (escape c) := by
  have hcode : ∀ n, c.toNat = n → c = Char.ofNat n := by
    rintro n rfl
    exact (Char.ofNat_toNat c).symm
  unfold escape
  split
  · next h => exact .short (by decide) (by rw [h]; decide)
  split
  · next h => exact .short (by decide) (by rw [h]; decide)
  split
  · next h => exact .short (by decide) (by rw [h]; decide)
  split
  · next h => exact .short (by decide) (by rw [h]; decide)
  split
  · next h => exact .short (by decide) (by rw [h]; decide)
  split
  · next h => exact .short (by decide) (by rw [hcode _ h]; decide)
  split
  · next h => exact .short (by decide) (by rw [hcode _ h]; decide)
  split
  · next h =>
    have hhigh := hexValue_digitChar (c.toNat / 16) (by omega)
    have hlow := hexValue_digitChar (c.toNat % 16) (by omega)
    have hsum : 16 * (c.toNat / 16) + c.toNat % 16 = c.toNat := by omega
    refine .code (digitChar_plain _ (by omega)) (digitChar_plain _ (by omega)) ?_
    rw [hhigh, hlow, hsum, Char.ofNat_toNat]
  · next hquote hbackslash _ _ _ _ _ _ => exact .plain hquote hbackslash

theorem Escaped.head?_ne {c : Char} {cs : List Char} (h : Escaped c cs) :
    ∃ x r, cs = x :: r ∧ x ≠ '"' := by
  cases h with
  | plain hquote _ => exact ⟨_, _, rfl, hquote⟩
  | short _ _ => exact ⟨_, _, rfl, by decide⟩
  | code _ _ _ => exact ⟨_, _, rfl, by decide⟩

/-- The first character that an escaped text stands for, and the text behind it. -/
def unescape? : List Char → Option (Char × List Char)
  | [] => none
  | c :: r =>
    if c = '\\' then
      match r with
      | 'u' :: '0' :: '0' :: a :: b :: r => some (.ofNat (16 * hexValue a + hexValue b), r)
      | c :: r => some (shortEscape c, r)
      | [] => none
    else some (c, r)

theorem Escaped.unescape?_append {c : Char} {cs : List Char} (h : Escaped c cs) (r : List Char) :
    unescape? (cs ++ r) = some (c, r) := by
  cases h with
  | plain _ hbackslash =>
    simp only [List.cons_append, List.nil_append, unescape?, if_neg hbackslash]
  | short hx hc =>
    simp only [List.cons_append, List.nil_append, unescape?, if_true]
    split
    · next h => cases h; exact absurd rfl hx
    · next h => cases h; rw [hc]
    · next h => cases h
  | code _ _ hc =>
    simp only [List.cons_append, List.nil_append, unescape?, if_true, hc]

/-- A string shows where it ends. -/
theorem escape_append_inj {s t : List Char} {r u : List Char}
    (h : s.flatMap escape ++ '"' :: r = t.flatMap escape ++ '"' :: u) : s = t ∧ r = u := by
  induction s generalizing t with
  | nil =>
    cases t with
    | nil => exact ⟨rfl, List.tail_eq_of_cons_eq h⟩
    | cons d t =>
      obtain ⟨x, e, he, hx⟩ := (escaped_escape d).head?_ne
      rw [List.flatMap_cons, he] at h
      exact absurd (List.head_eq_of_cons_eq h).symm hx
  | cons c s ih =>
    cases t with
    | nil =>
      obtain ⟨x, e, he, hx⟩ := (escaped_escape c).head?_ne
      rw [List.flatMap_cons, he] at h
      exact absurd (List.head_eq_of_cons_eq h) hx
    | cons d t =>
      have hfirst := congrArg unescape? h
      rw [List.flatMap_cons, List.flatMap_cons, List.append_assoc, List.append_assoc,
        (escaped_escape c).unescape?_append, (escaped_escape d).unescape?_append] at hfirst
      obtain ⟨rfl, hrest⟩ := Prod.mk.inj (Option.some.inj hfirst)
      obtain ⟨rfl, hru⟩ := ih hrest
      exact ⟨rfl, hru⟩

theorem toList_quote (s : String) : (quote s).toList = '"' :: (s.toList.flatMap escape ++ ['"']) := by
  simp [quote, String.toList_append]

theorem quote_append_inj {s t : String} {r u : List Char}
    (h : (quote s).toList ++ r = (quote t).toList ++ u) : s = t ∧ r = u := by
  simp only [toList_quote, List.cons_append, List.append_assoc, List.nil_append] at h
  obtain ⟨hst, hru⟩ := escape_append_inj (List.tail_eq_of_cons_eq h)
  exact ⟨String.toList_inj.mp hst, hru⟩

/-! ## Compact texts -/

/-- The sorts of values, each with first characters of its own. -/
inductive Kind
  | null
  | bool
  | number
  | string
  | array
  | object
deriving DecidableEq

def kind : Json → Kind
  | .null => .null
  | .bool _ => .bool
  | .number _ => .number
  | .string _ => .string
  | .array _ => .array
  | .object _ => .object

/-- The sort of the values whose texts begin with a character. -/
def kindOf? (c : Char) : Option Kind :=
  if c = 'n' then some .null
  else if c = 't' ∨ c = 'f' then some .bool
  else if c = '"' then some .string
  else if c = '[' then some .array
  else if c = '\x7b' then some .object
  else if c.isDigit then some .number
  else none

def compactChars (j : Json) : List Char := j.compact.toList

/-- An entry of an object without blanks. -/
def entryChars (e : String × Json) : List Char := (quote e.1).toList ++ ':' :: e.2.compactChars

theorem compactItems_eq_map (l : List Json) : (compactItems l).map String.toList = l.map compactChars := by
  induction l with
  | nil => rfl
  | cons j r ih =>
    rw [compactItems, List.map_cons, List.map_cons, ih]
    rfl

theorem compactEntries_eq_map (l : List (String × Json)) :
    (compactEntries l).map String.toList = l.map entryChars := by
  induction l with
  | nil => rfl
  | cons e r ih =>
    rw [compactEntries, List.map_cons, List.map_cons, ih]
    simp [entryChars, compactChars, String.toList_append]

theorem compactChars_array (items : List Json) :
    (Json.array items).compactChars =
      '[' :: ([','].intercalate (items.map compactChars) ++ [']']) := by
  rw [compactChars, compact, String.toList_append, String.toList_append, String.toList_intercalate,
    compactItems_eq_map]
  rfl

theorem compactChars_object (entries : List (String × Json)) :
    (Json.object entries).compactChars =
      '\x7b' :: ([','].intercalate (entries.map entryChars) ++ ['\x7d']) := by
  rw [compactChars, compact, String.toList_append, String.toList_append, String.toList_intercalate,
    compactEntries_eq_map]
  rfl

theorem isDigit_of_mem_number {n : Nat} : ∀ c ∈ (Json.number n).compactChars, c.isDigit = true := by
  intro c hc
  rw [compactChars, compact, toString, instToStringNat, Nat.toList_repr] at hc
  exact Nat.isDigit_of_mem_toDigits (by decide) (by decide) hc

theorem ne_of_isDigit {c : Char} (h : c.isDigit = true) : ∀ d : Char, d.isDigit = false → c ≠ d := by
  rintro d hd rfl
  rw [h] at hd
  cases hd

theorem kindOf?_of_isDigit {c : Char} (h : c.isDigit = true) : kindOf? c = some .number := by
  simp [kindOf?, h, ne_of_isDigit h]

theorem compactChars_first (j : Json) : ∃ c r, j.compactChars = c :: r ∧ kindOf? c = some j.kind := by
  cases j with
  | null => exact ⟨_, _, rfl, rfl⟩
  | bool b => cases b <;> exact ⟨_, _, rfl, rfl⟩
  | number n =>
    cases hn : (Json.number n).compactChars with
    | nil => exact absurd hn (by simp [compactChars, compact, Nat.toList_repr])
    | cons c r =>
      exact ⟨c, r, rfl, kindOf?_of_isDigit (isDigit_of_mem_number c (hn ▸ List.mem_cons_self))⟩
  | string s => exact ⟨_, _, toList_quote s, rfl⟩
  | array items => exact ⟨_, _, compactChars_array items, rfl⟩
  | object entries => exact ⟨_, _, compactChars_object entries, rfl⟩

/-- No digit comes next. -/
def Closed (r : List Char) : Prop := ∀ c, r.head? = some c → c.isDigit = false

/-- The text of an item shows where it ends, and which item it is. -/
def Separable {α : Type} (text : α → List Char) (a : α) : Prop :=
  ∀ b r u, Closed r → Closed u → text a ++ r = text b ++ u → a = b ∧ r = u

theorem closed_cons {c : Char} {r : List Char} (h : c.isDigit = false) : Closed (c :: r) := by
  intro d hd
  rw [List.head?_cons, Option.some.injEq] at hd
  exact hd ▸ h

/-- What stands behind the first item of a list, up to the closing bracket and on. -/
def behindItem {α : Type} (text : α → List Char) (close : Char) (r : List Char) : List α → List Char
  | [] => close :: r
  | a :: l => ',' :: ([','].intercalate ((a :: l).map text) ++ close :: r)

theorem intercalate_cons_append {α : Type} {text : α → List Char} {close : Char} (a : α) (l : List α)
    (r : List Char) :
    [','].intercalate ((a :: l).map text) ++ close :: r = text a ++ behindItem text close r l := by
  cases l with
  | nil => simp [behindItem]
  | cons b l => simp [behindItem, List.intercalate_cons_cons]

theorem closed_behindItem {α : Type} {text : α → List Char} {close : Char}
    (hdigit : close.isDigit = false) (l : List α) (r : List Char) :
    Closed (behindItem text close r l) := by
  cases l with
  | nil => exact closed_cons hdigit
  | cons a l => exact closed_cons (by decide)

/-- A list of items shows where it ends if its items do. -/
theorem intercalate_append_inj {α : Type} {text : α → List Char} {close : Char}
    (hdigit : close.isDigit = false) (hcomma : close ≠ ',')
    (hfirst : ∀ a, ∃ c e, text a = c :: e ∧ c ≠ close) {l m : List α} {r u : List Char}
    (hl : ∀ a ∈ l, Separable text a)
    (h : [','].intercalate (l.map text) ++ close :: r =
      [','].intercalate (m.map text) ++ close :: u) : l = m ∧ r = u := by
  have hnil : ∀ (a : α) (l : List α) (r u : List Char),
      close :: r ≠ [','].intercalate ((a :: l).map text) ++ close :: u := by
    intro a l r u he
    obtain ⟨c, e, ha, hc⟩ := hfirst a
    rw [intercalate_cons_append, ha] at he
    exact hc (List.head_eq_of_cons_eq he).symm
  induction l generalizing m with
  | nil =>
    cases m with
    | nil => exact ⟨rfl, List.tail_eq_of_cons_eq h⟩
    | cons b m => exact absurd h (hnil b m r u)
  | cons a l ih =>
    cases m with
    | nil => exact absurd h.symm (hnil a l u r)
    | cons b m =>
      rw [intercalate_cons_append, intercalate_cons_append] at h
      obtain ⟨rfl, hrest⟩ := hl a List.mem_cons_self b _ _ (closed_behindItem hdigit l r)
        (closed_behindItem hdigit m u) h
      cases l with
      | nil =>
        cases m with
        | nil => exact ⟨rfl, List.tail_eq_of_cons_eq hrest⟩
        | cons b m => exact absurd (List.head_eq_of_cons_eq hrest) hcomma
      | cons a' l =>
        cases m with
        | nil => exact absurd (List.head_eq_of_cons_eq hrest).symm hcomma
        | cons b m =>
          obtain ⟨hlm, hru⟩ := ih (fun x hx => hl x (List.mem_cons_of_mem _ hx))
            (List.tail_eq_of_cons_eq hrest)
          exact ⟨by rw [hlm], hru⟩

/-- Values with one text in front have one sort. -/
theorem kind_eq_of_append {j k : Json} {r u : List Char}
    (h : j.compactChars ++ r = k.compactChars ++ u) : j.kind = k.kind := by
  obtain ⟨c, e, hj, hc⟩ := compactChars_first j
  obtain ⟨d, f, hk, hd⟩ := compactChars_first k
  rw [hj, hk] at h
  obtain rfl : c = d := List.head_eq_of_cons_eq h
  rw [hc] at hd
  exact Option.some.inj hd

theorem separable_null : Separable compactChars .null := by
  intro k r u _ _ h
  have hkind := kind_eq_of_append h
  cases k with
  | null => exact ⟨rfl, List.append_cancel_left h⟩
  | _ => simp [kind] at hkind

theorem separable_bool (b : Bool) : Separable compactChars (.bool b) := by
  intro k r u _ _ h
  have hkind := kind_eq_of_append h
  cases k with
  | bool c =>
    cases b with
    | false =>
      cases c with
      | false => exact ⟨rfl, List.append_cancel_left h⟩
      | true => exact absurd (List.head_eq_of_cons_eq h) (by decide)
    | true =>
      cases c with
      | false => exact absurd (List.head_eq_of_cons_eq h) (by decide)
      | true => exact ⟨rfl, List.append_cancel_left h⟩
  | _ => simp [kind] at hkind

theorem separable_number (n : Nat) : Separable compactChars (.number n) := by
  intro k r u hr hu h
  have hkind := kind_eq_of_append h
  cases k with
  | number m =>
    have hdigits : ∀ (n : Nat) (r : List Char), Closed r →
        ((Json.number n).compactChars ++ r).takeWhile Char.isDigit = (Json.number n).compactChars :=
      fun n r hr => Text.takeWhile_append_of_head isDigit_of_mem_number hr
    have hchars := congrArg (List.takeWhile Char.isDigit) h
    rw [hdigits n r hr, hdigits m u hu] at hchars
    rw [hchars] at h
    simp only [compactChars, compact, toString, Nat.toList_repr] at hchars
    have hvalues := congrArg (Nat.ofDigitChars 10 · 0) hchars
    simp only [Nat.ofDigitChars_toDigits (b := 10) (by decide) (by decide)] at hvalues
    subst hvalues
    exact ⟨rfl, List.append_cancel_left h⟩
  | _ => simp [kind] at hkind

theorem separable_string (s : String) : Separable compactChars (.string s) := by
  intro k r u _ _ h
  have hkind := kind_eq_of_append h
  cases k with
  | string t =>
    obtain ⟨rfl, hru⟩ := quote_append_inj h
    exact ⟨rfl, hru⟩
  | _ => simp [kind] at hkind

theorem separable_array {items : List Json} (h : ∀ j ∈ items, Separable compactChars j) :
    Separable compactChars (.array items) := by
  intro k r u _ _ he
  have hkind := kind_eq_of_append he
  cases k with
  | array more =>
    have hfirst : ∀ j : Json, ∃ c e, j.compactChars = c :: e ∧ c ≠ ']' := by
      intro j
      obtain ⟨c, e, hj, hc⟩ := compactChars_first j
      refine ⟨c, e, hj, ?_⟩
      rintro rfl
      cases hc
    rw [compactChars_array, compactChars_array, List.cons_append, List.cons_append,
      List.append_assoc, List.append_assoc] at he
    obtain ⟨rfl, hru⟩ := intercalate_append_inj (by decide) (by decide) hfirst h
      (List.tail_eq_of_cons_eq he)
    exact ⟨rfl, hru⟩
  | _ => simp [kind] at hkind

theorem separable_object {entries : List (String × Json)}
    (h : ∀ e ∈ entries, Separable entryChars e) : Separable compactChars (.object entries) := by
  intro k r u _ _ he
  have hkind := kind_eq_of_append he
  cases k with
  | object more =>
    have hfirst : ∀ e : String × Json, ∃ c r, entryChars e = c :: r ∧ c ≠ '\x7d' := by
      intro e
      refine ⟨_, _, by rw [entryChars, toList_quote, List.cons_append], by decide⟩
    rw [compactChars_object, compactChars_object, List.cons_append, List.cons_append,
      List.append_assoc, List.append_assoc] at he
    obtain ⟨rfl, hru⟩ := intercalate_append_inj (by decide) (by decide) hfirst h
      (List.tail_eq_of_cons_eq he)
    exact ⟨rfl, hru⟩
  | _ => simp [kind] at hkind

theorem separable_entry {e : String × Json} (h : Separable compactChars e.2) :
    Separable entryChars e := by
  rintro ⟨name, j⟩ r u hr hu he
  rw [entryChars, entryChars, List.append_assoc, List.append_assoc] at he
  obtain ⟨hname, he⟩ := quote_append_inj he
  obtain ⟨hj, hru⟩ := h j r u hr hu (List.tail_eq_of_cons_eq he)
  exact ⟨Prod.ext hname hj, hru⟩

mutual

/-- Every value can be told from its text, whatever stands behind it. -/
theorem separable_compactChars : ∀ j : Json, Separable compactChars j
  | .null => separable_null
  | .bool b => separable_bool b
  | .number n => separable_number n
  | .string s => separable_string s
  | .array items => separable_array (separable_items items)
  | .object entries => separable_object (separable_entries entries)
termination_by structural j => j

theorem separable_items : ∀ l : List Json, ∀ j ∈ l, Separable compactChars j
  | [] => List.forall_mem_nil _
  | j :: r => List.forall_mem_cons.mpr ⟨separable_compactChars j, separable_items r⟩
termination_by structural l => l

theorem separable_entries : ∀ l : List (String × Json), ∀ e ∈ l, Separable entryChars e
  | [] => List.forall_mem_nil _
  | (name, j) :: r => List.forall_mem_cons.mpr
      ⟨separable_entry (e := (name, j)) (separable_compactChars j), separable_entries r⟩
termination_by structural l => l

end

theorem compact_inj {j k : Json} : j.compact = k.compact ↔ j = k := by
  constructor
  · intro h
    have hclosed : Closed [] := fun c hc => by cases hc
    have hchars : j.compactChars ++ [] = k.compactChars ++ [] := by
      rw [compactChars, compactChars, h]
    exact (separable_compactChars j k [] [] hclosed hclosed hchars).1
  · rintro rfl
    rfl

/-! ## Laid out texts -/

mutual

/-- A text without its blanks and line breaks, strings kept as they are. -/
def withoutBlanks : List Char → List Char
  | [] => []
  | c :: r =>
    if c = ' ' ∨ c = '\n' then withoutBlanks r
    else if c = '"' then c :: inString r
    else c :: withoutBlanks r
termination_by structural l => l

/-- The same inside of a string. -/
def inString : List Char → List Char
  | [] => []
  | '\\' :: c :: r => '\\' :: c :: inString r
  | c :: r => if c = '"' then c :: withoutBlanks r else c :: inString r
termination_by structural l => l

end

/-- The characters that are put between marks when a value is laid out. -/
def isFiller (c : Char) : Bool := c == ' ' || c == '\n'

/-- The characters outside of strings that are kept. -/
def isMark (c : Char) : Bool := !isFiller c && c != '"'

/-- Without its blanks the text is another one, whatever follows. -/
def Thins (text thin : List Char) : Prop :=
  ∀ r, withoutBlanks (text ++ r) = thin ++ withoutBlanks r

theorem inString_escaped {c : Char} {cs : List Char} (h : Escaped c cs) (r : List Char) :
    inString (cs ++ r) = cs ++ inString r := by
  have hplain : ∀ (c : Char) (r : List Char), c ≠ '"' ∧ c ≠ '\\' →
      inString (c :: r) = c :: inString r := by
    rintro c r ⟨hquote, hbackslash⟩
    rw [inString.eq_def]
    split
    · next h => cases h
    · next h => cases h; exact absurd rfl hbackslash
    · next h =>
      cases h
      rw [if_neg hquote]
  cases h with
  | plain hquote hbackslash => exact hplain c r ⟨hquote, hbackslash⟩
  | short _ _ => rfl
  | code ha hb _ =>
    have hzero : '0' ≠ '"' ∧ '0' ≠ '\\' := by decide
    simp only [List.cons_append, List.nil_append, inString, hplain _ _ hzero, hplain _ _ ha,
      hplain _ _ hb]

theorem inString_flatMap (s r : List Char) :
    inString (s.flatMap escape ++ '"' :: r) = s.flatMap escape ++ '"' :: withoutBlanks r := by
  induction s with
  | nil =>
    rw [List.flatMap_nil, List.nil_append, List.nil_append, inString.eq_def]
    rfl
  | cons c s ih =>
    rw [List.flatMap_cons, List.append_assoc, inString_escaped (escaped_escape c), ih,
      List.append_assoc]

namespace Thins

theorem nil : Thins [] [] := fun _ => rfl

theorem append {a b c d : List Char} (hab : Thins a b) (hcd : Thins c d) :
    Thins (a ++ c) (b ++ d) := by
  intro r
  rw [List.append_assoc, hab, hcd, List.append_assoc]

theorem blanks {l : List Char} (h : l.all isFiller = true) : Thins l [] := by
  intro r
  induction l with
  | nil => rfl
  | cons c l ih =>
    rw [List.all_cons, Bool.and_eq_true] at h
    have hc : c = ' ' ∨ c = '\n' := by simpa [isFiller] using h.1
    rw [List.cons_append, withoutBlanks, if_pos hc, ih h.2]

theorem marks {l : List Char} (h : l.all isMark = true) : Thins l l := by
  intro r
  induction l with
  | nil => rfl
  | cons c l ih =>
    rw [List.all_cons, Bool.and_eq_true] at h
    obtain ⟨hfiller, hquote⟩ : ¬(c = ' ' ∨ c = '\n') ∧ c ≠ '"' := by
      simpa [isMark, isFiller] using h.1
    rw [List.cons_append, withoutBlanks, if_neg hfiller, if_neg hquote, ih h.2, List.cons_append]

theorem string (s : String) : Thins (quote s).toList (quote s).toList := by
  intro r
  rw [toList_quote, List.cons_append, List.append_assoc, withoutBlanks, if_neg (by decide),
    if_pos rfl]
  show '"' :: inString (s.toList.flatMap escape ++ '"' :: r) = _
  rw [inString_flatMap]
  simp

theorem intercalate {texts thins : List (List Char)} (h : List.Forall₂ Thins texts thins) :
    Thins ([','].intercalate texts) ([','].intercalate thins) := by
  have hcomma : Thins [','] [','] := marks (by decide)
  induction h with
  | nil => exact nil
  | @cons a b l m hab hlm ih =>
    cases hlm with
    | nil => simpa using hab
    | cons hcd hlm =>
      rw [List.intercalate_cons_cons, List.intercalate_cons_cons]
      exact (hab.append hcomma).append ih

theorem lineStart (level : Nat) : Thins (Json.lineStart level).toList [] := by
  apply blanks
  simp [Json.lineStart, String.toList_append, isFiller]

/-- Items on lines of their own, between brackets. -/
theorem block {left right : String} (hleft : Thins left.toList left.toList)
    (hright : Thins right.toList right.toList) (level : Nat) {items : List String}
    {thins : List (List Char)} (h : List.Forall₂ Thins (items.map String.toList) thins) :
    Thins (Json.block level left right items).toList
      (left.toList ++ [','].intercalate thins ++ right.toList) := by
  have hitems : List.Forall₂ Thins
      ((items.map (Json.lineStart (level + 1) ++ ·)).map String.toList) thins := by
    rw [List.map_map, List.forall₂_map_left_iff]
    refine (List.forall₂_map_left_iff.mp h).imp ?_
    intro text thin htext
    rw [Function.comp_apply, String.toList_append]
    exact (lineStart (level + 1)).append htext
  unfold Json.block
  split
  · next hempty =>
    rw [List.isEmpty_iff] at hempty
    subst hempty
    cases h
    simpa [String.toList_append] using hleft.append hright
  · rw [String.toList_append, String.toList_append, String.toList_append,
      String.toList_intercalate]
    simpa using ((hleft.append (intercalate hitems)).append (lineStart level)).append hright

end Thins

theorem thins_null : Thins Json.null.compactChars Json.null.compactChars := .marks (by decide)

theorem thins_bool (b : Bool) : Thins (Json.bool b).compactChars (Json.bool b).compactChars := by
  cases b with
  | false => exact .marks (by decide)
  | true => exact .marks (by decide)

theorem thins_number (n : Nat) :
    Thins (Json.number n).compactChars (Json.number n).compactChars := by
  apply Thins.marks
  rw [List.all_eq_true]
  intro c hc
  simp [isMark, isFiller, ne_of_isDigit (isDigit_of_mem_number c hc)]

theorem thins_entry {name : String} {text : String} {j : Json}
    (h : Thins text.toList j.compactChars) :
    Thins (quote name ++ ": " ++ text).toList (entryChars (name, j)) := by
  have hmarks : Thins ": ".toList [':'] :=
    (Thins.marks (l := [':']) (by decide)).append (Thins.blanks (l := [' ']) (by decide))
  rw [String.toList_append, String.toList_append, List.append_assoc]
  exact (Thins.string name).append (hmarks.append h)

mutual

/-- Laid out at any level, a value is its compact text with blanks between the marks. -/
theorem thins_prettyAt : ∀ (j : Json) (level : Nat), Thins (prettyAt level j).toList j.compactChars
  | .null, _ => thins_null
  | .bool b, _ => thins_bool b
  | .number n, _ => thins_number n
  | .string s, _ => .string s
  | .array items, level => by
    rw [prettyAt, compactChars_array]
    exact .block (.marks (by decide)) (.marks (by decide)) level (thins_items items (level + 1))
  | .object entries, level => by
    rw [prettyAt, compactChars_object]
    exact .block (.marks (by decide)) (.marks (by decide)) level
      (thins_entries entries (level + 1))
termination_by structural j => j

theorem thins_items : ∀ (l : List Json) (level : Nat),
    List.Forall₂ Thins ((prettyItems level l).map String.toList) (l.map compactChars)
  | [], _ => .nil
  | j :: r, level => .cons (thins_prettyAt j level) (thins_items r level)
termination_by structural l => l

theorem thins_entries : ∀ (l : List (String × Json)) (level : Nat),
    List.Forall₂ Thins ((prettyEntries level l).map String.toList) (l.map entryChars)
  | [], _ => .nil
  | (_, j) :: r, level => .cons (thins_entry (thins_prettyAt j level)) (thins_entries r level)
termination_by structural l => l

end

theorem withoutBlanks_pretty (j : Json) : withoutBlanks j.pretty.toList = j.compactChars := by
  have h := thins_prettyAt j 0 []
  rwa [List.append_nil, withoutBlanks, List.append_nil] at h

theorem pretty_inj {j k : Json} : j.pretty = k.pretty ↔ j = k := by
  constructor
  · intro h
    have hchars : j.compactChars = k.compactChars := by
      rw [← withoutBlanks_pretty j, ← withoutBlanks_pretty k, h]
    exact compact_inj.mp (String.toList_inj.mp hchars)
  · rintro rfl
    rfl

end ApiDoc.Json
