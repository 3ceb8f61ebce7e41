/-!
# Blanks and words

White space, the division of a text into words, and the two normal forms built from it: `trim`
drops the blanks at both ends, `collapse` also reduces every inner run of blanks to one space.
A collapsed text is its list of words joined by single spaces.
-/

set_option autoImplicit false

namespace SqlTables.Text

/-- Unicode white space: the controls U+0009–U+000D and U+001C–U+001F, the next-line control,
and the separators. -/
def isBlank (c : Char) : Bool :=
  let n := c.toNat
  (0x09 ≤ n && n ≤ 0x0D) || (0x1C ≤ n && n ≤ 0x20) || n == 0x85 || n == 0xA0 || n == 0x1680
    || (0x2000 ≤ n && n ≤ 0x200A) || n == 0x2028 || n == 0x2029 || n == 0x202F || n == 0x205F
    || n == 0x3000

/-- The maximal runs of characters that are not blank, in order. -/
def words : List Char → List (List Char)
  | [] => []
  | [c] => if isBlank c then [] else [[c]]
  | c :: d :: rest =>
    if isBlank c then words (d :: rest)
    else if isBlank d then [c] :: words (d :: rest)
    else (words (d :: rest)).modifyHead (c :: ·)

/-- Words joined by single spaces. -/
def unwords : List (List Char) → List Char
  | [] => []
  | [w] => w
  | w :: v :: ws => w ++ ' ' :: unwords (v :: ws)

/-- The text with its outer blanks dropped and every inner run of blanks made one space. -/
def collapse (s : List Char) : List Char := unwords (words s)

/-- The text without the blanks at its end. -/
def trimRight (s : List Char) : List Char := (s.reverse.dropWhile isBlank).reverse

/-- The text without the blanks at its two ends. -/
def trim (s : List Char) : List Char := trimRight (s.dropWhile isBlank)

/-- `trim` on strings. -/
def trimmed (s : String) : String := String.ofList (trim s.toList)

/-- `collapse` on strings. -/
def collapsed (s : String) : String := String.ofList (collapse s.toList)

@[simp] theorem isBlank_space : isBlank ' ' = true := by decide

@[simp] theorem words_nil : words [] = [] := rfl

theorem words_cons_of_blank {c : Char} (h : isBlank c = true) (s : List Char) :
    words (c :: s) = words s := by
  cases s <;> simp [words, h]

theorem words_append_of_blank {s : List Char} (h : ∀ c ∈ s, isBlank c = true) (t : List Char) :
    words (s ++ t) = words t := by
  induction s with
  | nil => rfl
  | cons c s ih =>
    rw [List.cons_append, words_cons_of_blank (h c (by simp)),
      ih fun d hd => h d (List.mem_cons_of_mem c hd)]

end SqlTables.Text
