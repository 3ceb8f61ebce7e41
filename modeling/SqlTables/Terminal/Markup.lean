/-!
# Markup

Text with tags in square brackets, which name the style of what follows: `[red]warning[/red]`.  A
backslash before a tag makes it plain text, and two backslashes before a tag stand for one.  Brackets
that hold something else are plain text.  Text from elsewhere is escaped before it is put into
markup.

Output here has no styles, so the tags of a text leave no trace in it.
-/

set_option autoImplicit false

namespace SqlTables.Terminal

/-- Whether a character begins what a tag holds. -/
def opensTag (c : Char) : Bool := c.isLower || c == '#' || c == '/' || c == '@'

/-- Divides a text after its first closing bracket; none if an opening one comes before. -/
def closeTag? : List Char → Option (List Char × List Char)
  | [] => none
  | c :: rest =>
    if c == ']' then some ([c], rest)
    else if c == '[' then none
    else (closeTag? rest).map fun (body, after) => (c :: body, after)

/-- Divides a text after the tag that it begins with. -/
def tag? : List Char → Option (List Char × List Char)
  | '[' :: c :: rest =>
    if opensTag c then (closeTag? rest).map fun (body, after) => ('[' :: c :: body, after) else none
  | _ => none

theorem append_of_closeTag? {s body after : List Char} (h : closeTag? s = some (body, after)) :
    body ++ after = s := by
  induction s generalizing body with
  | nil => simp [closeTag?] at h
  | cons c rest ih =>
    rw [closeTag?] at h
    split at h
    · simp only [Option.some.injEq, Prod.mk.injEq] at h
      simp [← h.1, ← h.2]
    · split at h
      · simp at h
      · obtain ⟨⟨b, a⟩, hb, he⟩ := Option.map_eq_some_iff.1 h
        simp only [Prod.mk.injEq] at he
        obtain ⟨rfl, rfl⟩ := he
        simp [ih hb]

theorem append_of_tag? {s t after : List Char} (h : tag? s = some (t, after)) : t ++ after = s := by
  unfold tag? at h
  split at h
  · split at h
    · obtain ⟨⟨b, a⟩, hb, he⟩ := Option.map_eq_some_iff.1 h
      simp only [Prod.mk.injEq] at he
      simp [← he.1, ← he.2, append_of_closeTag? hb]
    · simp at h
  · simp at h

theorem length_after_tag?_lt {s t after : List Char} (h : tag? s = some (t, after)) :
    after.length < s.length := by
  have happ := append_of_tag? h
  have ht : t ≠ [] := by
    rintro rfl
    unfold tag? at h
    split at h
    · split at h <;> simp at h
    · simp at h
  have hpos := List.length_pos_iff.2 ht
  rw [← happ, List.length_append]
  omega

/-- Escapes a text after so many backslashes: a tag gets one before it, and those that stand there
are doubled. -/
def escapeAfter (slashes : Nat) (s : List Char) : List Char :=
  match s with
  | [] => List.replicate slashes '\\'
  | c :: rest =>
    if c == '\\' then escapeAfter (slashes + 1) rest
    else match _h : tag? (c :: rest) with
      | some (t, after) => List.replicate (2 * slashes + 1) '\\' ++ t ++ escapeAfter 0 after
      | none => List.replicate slashes '\\' ++ c :: escapeAfter 0 rest
termination_by s.length
decreasing_by
  · simp
  · exact length_after_tag?_lt ‹_›
  · simp

/-- Text as markup.  A single backslash at the end is doubled, so that it does not escape a tag
that follows. -/
def escape (s : List Char) : List Char :=
  let t := escapeAfter 0 s
  match t.reverse with
  | '\\' :: '\\' :: _ => t
  | '\\' :: _ => t ++ ['\\']
  | _ => t

/-- What markup shows, after so many backslashes.  The bracket that begins no tag loses a backslash
before it. -/
def plainAfter (slashes : Nat) (s : List Char) : List Char :=
  match s with
  | [] => List.replicate slashes '\\'
  | c :: rest =>
    if c == '\\' then plainAfter (slashes + 1) rest
    else match _h : tag? (c :: rest) with
      | some (t, after) =>
        List.replicate (slashes / 2) '\\' ++ (if slashes % 2 = 1 then t else []) ++ plainAfter 0 after
      | none =>
        List.replicate (if c == '[' then slashes - 1 else slashes) '\\' ++ c :: plainAfter 0 rest
termination_by s.length
decreasing_by
  · simp
  · exact length_after_tag?_lt ‹_›
  · simp

/-- What markup shows. -/
def plain (s : List Char) : List Char := plainAfter 0 s

/-- `escape` on strings. -/
def escaped (s : String) : String := String.ofList (escape s.toList)

end SqlTables.Terminal
