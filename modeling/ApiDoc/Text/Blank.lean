/-!
# Blank characters

The blank characters are those with the Unicode property `White_Space`.  Texts are handled as
lists of characters: `trim` cuts the blanks off both ends, `words` cuts a text at its blanks.
-/

namespace ApiDoc.Text

/-- The Unicode property `White_Space`. -/
def isBlank (c : Char) : Bool :=
  c == ' ' || (9 ≤ c.toNat && c.toNat ≤ 13) || c.toNat == 0x85 || c.toNat == 0xA0 ||
    c.toNat == 0x1680 || (0x2000 ≤ c.toNat && c.toNat ≤ 0x200A) || c.toNat == 0x2028 ||
    c.toNat == 0x2029 || c.toNat == 0x202F || c.toNat == 0x205F || c.toNat == 0x3000

/-- The text without its leading blanks. -/
def trimStart (cs : List Char) : List Char := cs.dropWhile isBlank

/-- The text without its trailing blanks. -/
def trimEnd (cs : List Char) : List Char := (cs.reverse.dropWhile isBlank).reverse

/-- The text without the blanks at its two ends. -/
def trim (cs : List Char) : List Char := trimEnd (trimStart cs)

/-- The maximal runs of characters that are not blank, in order. -/
def words (cs : List Char) : List (List Char) :=
  (cs.splitOnP isBlank).filter fun w => !w.isEmpty

/-- The parts of a text before and after the first `c`, if there is one. -/
def cutAt? (c : Char) : List Char → Option (List Char × List Char)
  | [] => none
  | x :: r => if x = c then some ([], r) else (cutAt? c r).map fun p => (x :: p.1, p.2)

/-- The parts of a text before and after the last `c`, if there is one. -/
def cutAtLast? (c : Char) : List Char → Option (List Char × List Char)
  | [] => none
  | x :: r =>
    match cutAtLast? c r with
    | some p => some (x :: p.1, p.2)
    | none => if x = c then some ([], r) else none

/-! ## Lemmas -/

theorem length_dropWhile_le {α : Type} (p : α → Bool) (l : List α) :
    (l.dropWhile p).length ≤ l.length :=
  (List.dropWhile_sublist p).length_le

/-- What is taken of a list ends where the rest begins. -/
theorem takeWhile_append_of_head {α : Type} {p : α → Bool} {l r : List α} (hl : ∀ a ∈ l, p a = true)
    (hr : ∀ a ∈ r.head?, p a = false) : (l ++ r).takeWhile p = l := by
  rw [List.takeWhile_append_of_pos hl]
  cases r with
  | nil => simp
  | cons a r => rw [List.takeWhile_cons_of_neg (by simp [hr a rfl]), List.append_nil]

theorem words_nil : words [] = [] := by simp [words]

theorem mem_words {cs w : List Char} (h : w ∈ words cs) : w ≠ [] := by
  intro e
  simp [words, e] at h

end ApiDoc.Text
