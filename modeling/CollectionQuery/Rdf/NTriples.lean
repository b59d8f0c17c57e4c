import CollectionQuery.Rdf.NTriples.Rest

/-! Documents in the line formats N-Triples and N-Quads: at most one statement on a line, with the name of its graph in
    the second format. Line breaks count between statements only: the text of a literal may hold them. -/

namespace CollectionQuery
namespace NTriples

def isBreak (c : Char) : Bool := c = '\n' || c = '\r'

/-- The text behind the end of the line, if nothing but a comment is left of it. -/
def endLine? (cs : List Char) : Option (List Char) :=
  match skipBlank cs with
  | [] => some []
  | c :: rest =>
    if isBreak c then some rest
    else if c = '#' then some ((rest.dropWhile fun c => !isBreak c).drop 1)
    else none

theorem length_le_of_endLine? {cs rest : List Char} (h : endLine? cs = some rest) : rest.length ≤ cs.length - 1 := by
  have hs := (skipBlank_suffix cs).length_le
  unfold endLine? at h
  split at h
  · cases h; simp
  · next hc =>
    rw [hc, List.length_cons] at hs
    split at h
    · cases h; omega
    · split at h
      · cases h
        have := (List.dropWhile_suffix (l := ‹List Char›) fun c => !isBreak c).length_le
        simp only [List.length_drop]
        omega
      · cases h

/-- The statements of a document, if all of it can be read. -/
def read? (names : Bool) (cs : List Char) : Option (List Statement) :=
  if cs = [] then some []
  else
    match _he : endLine? cs with
    | some rest => read? names rest
    | none =>
      match _hs : readStatement names cs with
      | none => none
      | some (statement, rest) =>
        match _hr : endLine? rest with
        | none => none
        | some rest => (read? names rest).map (statement :: ·)
termination_by cs.length
decreasing_by
  · have := length_le_of_endLine? _he
    have := List.length_pos_iff.mpr ‹cs ≠ []›
    omega
  · have := length_le_of_endLine? _hr
    have := length_lt_of_readStatement _hs
    omega

/-- A triple as a line. -/
def line (t : Triple) : String := t.text ++ " .\n"

end NTriples
end CollectionQuery
