import CollectionQuery.Proofs.Collection.MemberVariable
import CollectionQuery.Proofs.Text.Decimal

/-! The variables that filters and sort keys get. They are told apart by the decimal number in their name: for a filter it
    ends at the underscore that no number has, for a sort key it is the rest of the name. A mapping without a call and an
    entry without a path use up no number. -/

namespace CollectionQuery
open Text

/-! ### Filters -/

namespace VariableGenerator

/-- The underscore behind the number ends it, whatever name follows. -/
theorem eq_of_make_eq {n m : Nat} {a b : String}
    (h : make ⟨"filter" ++ toString n⟩ a = make ⟨"filter" ++ toString m⟩ b) : n = m := by
  have hpast (k : Nat) : ∀ c ∈ (toString k).toList, decide (c ≠ '_') = true := by
    intro c hc
    have hdigit : c.isDigit := Count.isDigit_of_mem_toString hc
    refine decide_eq_true fun hunderscore => ?_
    rw [hunderscore] at hdigit
    exact absurd hdigit (by decide)
  have hnumber (k : Nat) (name : String) :
      ((make ⟨"filter" ++ toString k⟩ name).name.toList.drop 6).takeWhile (fun c => c ≠ '_') = (toString k).toList := by
    simp only [make, String.toList_append, List.append_assoc]
    rw [List.drop_left' (by decide), List.takeWhile_append_of_pos (hpast k)]
    simp
  have hsame : (toString n).toList = (toString m).toList := by rw [← hnumber n a, h, hnumber]
  exact Count.toString_injective (String.toList_injective hsame)

/-- The first letter tells the variables of filters from all others that are generated. -/
theorem make_ne {n : Nat} {name : String} {v : Variable} (hv : v.name.toList.head? ≠ some 'f') :
    make ⟨"filter" ++ toString n⟩ name ≠ v := by
  have hfirst : (make ⟨"filter" ++ toString n⟩ name).name.toList.head? = some 'f' := by simp [make]
  exact fun h => hv (h ▸ hfirst)

end VariableGenerator

/-! ### Sort keys -/

namespace Sorting

theorem key_injective : Function.Injective key := by
  intro n m h
  have htext : "order".toList ++ (toString n).toList = "order".toList ++ (toString m).toList := by
    rw [← String.toList_append, ← String.toList_append]
    exact congrArg (fun v => v.name.toList) h
  exact Count.toString_injective (String.toList_injective (List.append_cancel_left htext))

variable {v : Variable} {entries : List OrderEntry} {k : Nat} {path : Path} {descending : Bool}

theorem nodup_keys (v : Variable) (entries : List OrderEntry) :
    ((ofEntries v entries).conditions.map (·.key)).Nodup := by
  have hkeys : (ofEntries v entries).conditions.map (·.key) =
      (((used entries).zipIdx 1).map Prod.snd).map key := by
    simp only [ofEntries, List.map_map, Function.comp_def]
  rw [hkeys, List.zipIdx_map_snd]
  exact List.Nodup.map key_injective List.nodup_range'

theorem length_ofEntries (v : Variable) (entries : List OrderEntry) :
    (ofEntries v entries).fragments.length = (used entries).length ∧
      (ofEntries v entries).conditions.length = (used entries).length := by
  simp [ofEntries]

/-- The entry in a place among those with a path has the key numbered by the place, in its fragment and in its
    condition. -/
theorem getElem?_ofEntries (h : (used entries)[k]? = some (path, descending)) :
    (ofEntries v entries).fragments[k]? = some (.optional (.along (.var v) path (.var (key (k + 1))))) ∧
      (ofEntries v entries).conditions[k]? = some ⟨descending, key (k + 1)⟩ := by
  have hnumbered : ((used entries).zipIdx 1)[k]? = some ((path, descending), k + 1) := by
    rw [List.getElem?_zipIdx, h, Option.map_some, Nat.add_comm]
  simp only [ofEntries, List.getElem?_map, hnumbered, Option.map_some, and_self]

end Sorting

/-! ### One pair of queries -/

namespace MemberQueries

/-- The calls of filters for a collection. -/
def callsFor (c : Collection) (params : SearchParams) (r : Resolver) : List FilterCall :=
  match c.search with
  | some t => (callsOf params t.filters r).1
  | none => []

theorem value_filterPatterns_callsFor (c : Collection) (params : SearchParams) (v : Variable) (r : Resolver) :
    (filterPatterns c params v r).value.1 =
      ((callsFor c params r).zipIdx 1).filterMap fun x => x.1.pattern? params v x.2 := by
  unfold callsFor
  cases ht : c.search with
  | some t => rw [value_filterPatterns_eq ht]
  | none =>
    unfold filterPatterns
    rw [ht]
    rfl

theorem sublist_callsFor {c : Collection} {t : SearchTemplate} (ht : c.search = some t) (params : SearchParams)
    (r : Resolver) (n : Nat) : (((callsFor c params r).zipIdx n).map fun x => x.1.mapped).Sublist t.filters := by
  have hnumbered : ((callsFor c params r).zipIdx n).map (fun x => x.1.mapped) =
      (callsFor c params r).map FilterCall.mapped := by
    rw [← List.zipIdx_map_fst n (callsFor c params r), List.map_map, List.zipIdx_map_fst]
    rfl
  rw [hnumbered, callsFor, ht]
  exact sublist_callsOf _ _

theorem value_sortingOf (c : Collection) (v : Variable) (page : Option PageRequest) :
    (sortingOf c v page).value = if page.isSome then .ofEntries v c.ordering else {} := by
  cases page with
  | some page => rfl
  | none => exact value_sortingOf_none c v

/-- Items in different places have different numbers. -/
theorem pairwise_zipIdx {α : Type} (as : List α) (n : Nat) : (as.zipIdx n).Pairwise fun x y => x.2 ≠ y.2 := by
  have hnumbers : ((as.zipIdx n).map Prod.snd).Nodup := by
    rw [List.zipIdx_map_snd]
    exact List.nodup_range'
  exact List.pairwise_map.mp hnumbers

/-- In the queries for a page no two filters are handed generators with a variable in common, whatever names they ask
    for, and no generator gives a sort key or the variable of the total, of linked resources or, unless another one is
    chosen, of members. The sort keys are distinct, and in each place the condition has the key that the optional part
    in this place binds. -/
theorem generated_variables_disjoint (c : Collection) (params : SearchParams) (options : Options) (r : Resolver) :
    let v := options.member
    let calls := (callsFor c params r).zipIdx 1
    let generator (x : FilterCall × Nat) := (x.1.input params v x.2).generator
    let fragments :=
      ((assertionPatterns c v).value ++ calls.filterMap fun x => x.1.pattern? params v x.2).map Fragment.required
    let used := Sorting.used c.ordering
    let sorting := Sorting.ofEntries v c.ordering
    (∀ queries ∈ (assemble c params options r).value.1,
      queries.members = selectMembers v fragments (if queries.page.isSome then sorting else {}) queries.page ∧
      queries.total = selectTotal v fragments) ∧
    (∀ t, c.search = some t → (calls.map fun x => x.1.mapped).Sublist t.filters) ∧
    (calls.Pairwise fun x y => ∀ a b, (generator x).make a ≠ (generator y).make b) ∧
    (∀ x ∈ calls, ∀ name, (∀ n, (generator x).make name ≠ Sorting.key n) ∧ (generator x).make name ≠ totalVariable ∧
      (generator x).make name ≠ Links.linkedVariable ∧ (generator x).make name ≠ ({} : Options).member) ∧
    (sorting.conditions.map (·.key)).Nodup ∧ sorting.fragments.length = used.length ∧
    sorting.conditions.length = used.length ∧
    ∀ k path descending, used[k]? = some (path, descending) →
      sorting.conditions[k]? = some ⟨descending, Sorting.key (k + 1)⟩ ∧
      ∃ p, sorting.fragments[k]? = some (.optional p) ∧ p = .along (.var v) path (.var (Sorting.key (k + 1))) ∧
        ∀ w, w ∈ p.vars ↔ w = v ∨ w = Sorting.key (k + 1) := by
  intro v calls generator fragments used sorting
  obtain ⟨hfragments, hconditions⟩ := Sorting.length_ofEntries v c.ordering
  refine ⟨fun queries hq => ?_, fun t ht => ?_, ?_, fun x _ name => ?_, Sorting.nodup_keys v c.ordering, hfragments,
    hconditions, fun k path descending hk => ?_⟩
  · obtain ⟨-, rfl⟩ := mem_value_assemble.mp hq
    rw [queriesOf, sharedFragments, value_filterPatterns_callsFor, value_sortingOf]
    exact ⟨rfl, rfl⟩
  · exact sublist_callsFor ht params r 1
  · refine (pairwise_zipIdx (callsFor c params r) 1).imp ?_
    intro x y hne a b hsame
    exact hne (VariableGenerator.eq_of_make_eq hsame)
  · exact ⟨fun n => VariableGenerator.make_ne (by simp [Sorting.key]), VariableGenerator.make_ne (by decide),
      VariableGenerator.make_ne (by decide), VariableGenerator.make_ne (by decide)⟩
  · obtain ⟨hfragment, hcondition⟩ := Sorting.getElem?_ofEntries (v := v) hk
    refine ⟨hcondition, _, hfragment, rfl, fun w => ?_⟩
    rw [Pattern.mem_vars_along]
    simp [TermPattern.vars]

end MemberQueries
end CollectionQuery
