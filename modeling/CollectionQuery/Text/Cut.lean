/-! Cutting text at a character, at its first occurrence or at its last. Nothing of the text is lost, and the part
    in front of a first cut (behind a last cut) does not hold the character. -/

namespace CollectionQuery
namespace Text

/-- The text before and after the first `c`, if there is one. -/
def cut? (c : Char) : List Char → Option (List Char × List Char)
  | [] => none
  | x :: xs => if x = c then some ([], xs) else (cut? c xs).map fun (front, back) => (x :: front, back)

/-- The text before and after the last `c`, if there is one. -/
def cutLast? (c : Char) : List Char → Option (List Char × List Char)
  | [] => none
  | x :: xs =>
    match cutLast? c xs with
    | some (front, back) => some (x :: front, back)
    | none => if x = c then some ([], xs) else none

/-- The text behind `start`, if the text begins with it. -/
def behind? : (start : List Char) → List Char → Option (List Char)
  | [], cs => some cs
  | _ :: _, [] => none
  | p :: ps, c :: cs => if p = c then behind? ps cs else none

/-- Whether `part` occurs somewhere in the text. -/
def occurs (part : List Char) : List Char → Bool
  | [] => part.isEmpty
  | c :: cs => (behind? part (c :: cs)).isSome || occurs part cs

/-! ### First cut -/

theorem eq_of_cut? {c : Char} {cs front back : List Char} (h : cut? c cs = some (front, back)) :
    cs = front ++ c :: back := by
  induction cs generalizing front with
  | nil => simp [cut?] at h
  | cons x xs ih =>
    unfold cut? at h
    split at h
    · next hx => cases h; simp [hx]
    · obtain ⟨⟨f, b⟩, hf, he⟩ := Option.map_eq_some_iff.mp h
      cases he
      simp [ih hf]

theorem not_mem_of_cut? {c : Char} {cs front back : List Char} (h : cut? c cs = some (front, back)) :
    c ∉ front := by
  induction cs generalizing front with
  | nil => simp [cut?] at h
  | cons x xs ih =>
    unfold cut? at h
    split at h
    · cases h; simp
    · next hx =>
      obtain ⟨⟨f, b⟩, hf, he⟩ := Option.map_eq_some_iff.mp h
      cases he
      simp only [List.mem_cons, not_or]
      exact ⟨fun e => hx e.symm, ih hf⟩

theorem cut?_append {c : Char} {front : List Char} (h : c ∉ front) (back : List Char) :
    cut? c (front ++ c :: back) = some (front, back) := by
  induction front with
  | nil => simp [cut?]
  | cons x xs ih =>
    simp only [List.mem_cons, not_or] at h
    rw [List.cons_append, cut?, if_neg (Ne.symm h.1), ih h.2]
    rfl

theorem cut?_eq_none_iff {c : Char} {cs : List Char} : cut? c cs = none ↔ c ∉ cs := by
  induction cs with
  | nil => simp [cut?]
  | cons x xs ih =>
    by_cases hx : x = c
    · simp [cut?, hx]
    · simp [cut?, hx, ih, eq_comm (a := c)]

/-! ### Last cut -/

theorem cutLast?_eq_none_iff {c : Char} {cs : List Char} : cutLast? c cs = none ↔ c ∉ cs := by
  induction cs with
  | nil => simp [cutLast?]
  | cons x xs ih =>
    unfold cutLast?
    split
    · next h => simp_all
    · next h =>
      by_cases hx : x = c
      · simp [hx]
      · simp [hx, ih.mp h, eq_comm (a := c)]

theorem not_mem_of_cutLast? {c : Char} {cs front back : List Char} (h : cutLast? c cs = some (front, back)) :
    c ∉ back := by
  induction cs generalizing front back with
  | nil => simp [cutLast?] at h
  | cons x xs ih =>
    unfold cutLast? at h
    split at h
    · next hf => cases h; exact ih hf
    · next hf =>
      split at h
      · cases h; exact cutLast?_eq_none_iff.mp hf
      · cases h

/-! ### Beginnings -/

theorem behind?_eq_some_iff {start cs rest : List Char} : behind? start cs = some rest ↔ cs = start ++ rest := by
  induction start generalizing cs with
  | nil => simp [behind?]
  | cons p ps ih =>
    cases cs with
    | nil => simp [behind?]
    | cons c cs =>
      unfold behind?
      split
      · next h => simp [ih, h]
      · next h => simp [eq_comm (a := c), h]

end Text
end CollectionQuery
