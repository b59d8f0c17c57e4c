import CollectionQuery.Proofs.Collection.Resolver
import CollectionQuery.Proofs.Distinct
import Mathlib.Data.List.TakeWhile

/-! Looking references up one after another with one resolver. A host need not be steady: what it answers may depend on
    all questions before. The resolver puts each question to it once, at the first look-up, and finds that answer
    again at all later ones, also if nothing is known. So warnings are raised, and missing filters are counted, for
    distinct references alone. -/

namespace CollectionQuery

/-! ### Questions of either kind -/

/-- What a look-up finds, possibly nothing. -/
inductive Found where
  | filter (known : Option Filter)
  | strategy (known : Option DescribeStrategy)

def Found.isNone : Found → Bool
  | filter known => known.isNone
  | strategy known => known.isNone

/-- The warning that nothing is known about the reference. -/
def Lookup.warning (q : Lookup) : Warning :=
  match q.kind with
  | .filter => .filterUnresolved q.reference
  | .describeStrategy => .strategyUnresolved q.reference

theorem Lookup.warning_injective : Function.Injective Lookup.warning := by
  rintro ⟨kind, reference⟩ ⟨kind', reference'⟩ h
  cases kind <;> cases kind' <;> simp_all [warning]

namespace Host

/-- The answer to a question that is put behind others. -/
def reply (h : Host) (asked : List Lookup) (q : Lookup) : Found :=
  match q.kind with
  | .filter => .filter (h.filter? asked q.reference)
  | .describeStrategy => .strategy (h.strategy? asked q.reference)

/-- The answer at the first of the look-ups that has the question, behind the distinct questions before. -/
def firstReply (h : Host) (qs : List Lookup) (q : Lookup) : Found :=
  h.reply (qs.takeWhile fun p => p ≠ q).eraseDups q

/-- The distinct questions to which there is first no answer. -/
def missing (h : Host) (qs : List Lookup) : List Lookup :=
  qs.eraseDups.filter fun q => (h.firstReply qs q).isNone

variable {h : Host} {qs : List Lookup} {q : Lookup}

theorem firstReply_append_of_mem (hq : q ∈ qs) (later : List Lookup) :
    h.firstReply (qs ++ later) q = h.firstReply qs q := by
  have hstops : (qs.takeWhile fun p => p ≠ q).length ≠ qs.length := fun hlength => by
    have hall := List.takeWhile_eq_self_iff.mp ((List.takeWhile_prefix _).eq_of_length hlength)
    simpa using hall q hq
  unfold firstReply
  rw [List.takeWhile_append, if_neg hstops]

theorem firstReply_append_of_new (hq : q ∉ qs) (later : List Lookup) :
    h.firstReply (qs ++ q :: later) q = h.reply qs.eraseDups q := by
  have hpast : ∀ p ∈ qs, decide (p ≠ q) = true := fun p hp => decide_eq_true fun e => hq (e ▸ hp)
  unfold firstReply
  rw [List.takeWhile_append_of_pos hpast, List.takeWhile_cons_of_neg (by simp), List.append_nil]

theorem missing_concat_of_mem (hq : q ∈ qs) : h.missing (qs ++ [q]) = h.missing qs := by
  unfold missing
  rw [eraseDups_concat, if_pos hq]
  refine List.filter_congr fun p hp => ?_
  rw [firstReply_append_of_mem (List.mem_eraseDups.mp hp)]

theorem missing_concat_of_new (hq : q ∉ qs) :
    h.missing (qs ++ [q]) = h.missing qs ++ if (h.reply qs.eraseDups q).isNone then [q] else [] := by
  have hkept : (qs.eraseDups.filter fun p => (h.firstReply (qs ++ [q]) p).isNone) = h.missing qs :=
    List.filter_congr fun p hp => by rw [firstReply_append_of_mem (List.mem_eraseDups.mp hp)]
  unfold missing at hkept ⊢
  rw [eraseDups_concat, if_neg hq, List.filter_append, hkept, List.filter_singleton, firstReply_append_of_new hq]
  cases (h.reply qs.eraseDups q).isNone <;> rfl

end Host

namespace Resolver

/-! ### One look-up -/

def find (q : Lookup) : Resolving Found := fun r =>
  match q.kind with
  | .filter => (fun (known, r) => (.filter known, r)) <$> r.filter q.reference
  | .describeStrategy => (fun (known, r) => (.strategy known, r)) <$> r.strategy q.reference

/-- What is remembered about a question. -/
def known? (r : Resolver) (q : Lookup) : Option Found :=
  match q.kind with
  | .filter => (r.filters.lookup q.reference).map .filter
  | .describeStrategy => (r.strategies.lookup q.reference).map .strategy

/-- The resolver that has put a question to its host and remembers the answer. -/
def asking (r : Resolver) (q : Lookup) : Resolver :=
  match q.kind with
  | .filter =>
    { r with
      asked := r.asked ++ [q]
      filters := (q.reference, r.host.filter? r.asked q.reference) :: r.filters
      unresolvedFilters :=
        if (r.host.filter? r.asked q.reference).isNone then r.unresolvedFilters + 1 else r.unresolvedFilters }
  | .describeStrategy =>
    { r with
      asked := r.asked ++ [q]
      strategies := (q.reference, r.host.strategy? r.asked q.reference) :: r.strategies }

variable {r : Resolver} {q : Lookup}

theorem find_of_known {found : Found} (h : r.known? q = some found) : find q r = pure (found, r) := by
  obtain ⟨kind, reference⟩ := q
  unfold find
  cases kind with
  | filter =>
    obtain ⟨known, hknown, rfl⟩ := Option.map_eq_some_iff.mp h
    dsimp only
    rw [filter_of_known hknown, map_pure]
  | describeStrategy =>
    obtain ⟨known, hknown, rfl⟩ := Option.map_eq_some_iff.mp h
    dsimp only
    rw [strategy_of_known hknown, map_pure]

theorem find_of_new (h : r.known? q = none) :
    find q r =
      { value := (r.host.reply r.asked q, r.asking q)
        warnings := if (r.host.reply r.asked q).isNone then [q.warning] else [] } := by
  obtain ⟨kind, reference⟩ := q
  unfold find
  cases kind with
  | filter =>
    dsimp only
    rw [filter_of_new (Option.map_eq_none_iff.mp h)]
    exact congrArg (Noted.mk _) (List.append_nil _)
  | describeStrategy =>
    dsimp only
    rw [strategy_of_new (Option.map_eq_none_iff.mp h)]
    exact congrArg (Noted.mk _) (List.append_nil _)

theorem host_asking (r : Resolver) (q : Lookup) : (r.asking q).host = r.host := by
  unfold asking
  split <;> rfl

theorem asked_asking (r : Resolver) (q : Lookup) : (r.asking q).asked = r.asked ++ [q] := by
  unfold asking
  split <;> rfl

theorem known?_asking (r : Resolver) (p q : Lookup) :
    (r.asking q).known? p = if p = q then some (r.host.reply r.asked q) else r.known? p := by
  obtain ⟨kind, reference⟩ := p
  obtain ⟨kind', reference'⟩ := q
  -- Questions of different kinds are remembered apart.
  cases kind <;> cases kind' <;>
    simp only [known?, asking, Host.reply, List.lookup_cons, Lookup.mk.injEq, reduceCtorEq, true_and, false_and,
      if_false]
  all_goals
    by_cases he : reference = reference'
    · simp [he]
    · simp [he, beq_eq_false_iff_ne.mpr he]

theorem unresolvedFilters_asking (r : Resolver) (q : Lookup) :
    (r.asking q).unresolvedFilters =
      r.unresolvedFilters + if q.kind = .filter ∧ (r.host.reply r.asked q).isNone then 1 else 0 := by
  obtain ⟨kind, reference⟩ := q
  cases kind with
  | filter =>
    simp only [asking, Host.reply, Found.isNone, true_and]
    cases (r.host.filter? r.asked reference).isNone <;> rfl
  | describeStrategy => simp [asking]

/-! ### Look-ups one after another -/

def findAll (qs : List Lookup) : Resolving (List Found) := qs.mapM find

/-- The look-up of one more reference. -/
def andFind (x : Noted (List Found × Resolver)) (q : Lookup) : Noted (List Found × Resolver) where
  value := (x.value.1 ++ [(find q x.value.2).value.1], (find q x.value.2).value.2)
  warnings := x.warnings ++ (find q x.value.2).warnings

theorem findAll_concat (qs : List Lookup) (q : Lookup) (r : Resolver) :
    findAll (qs ++ [q]) r = andFind (findAll qs r) q := by
  have hlast : List.mapM find [q] = (fun found => [found]) <$> find q := by simp
  unfold findAll
  rw [List.mapM_append, hlast]
  simp only [bind_map_left]
  exact congrArg (Noted.mk _) (congrArg _ (List.append_nil _))

theorem findAll_strategies (r : Resolver) (references : List Iri) :
    let r' := (findAll (references.map fun reference => ⟨.describeStrategy, reference⟩) r).value.2
    r'.filters = r.filters ∧ r'.unresolvedFilters = r.unresolvedFilters := by
  induction references using List.reverseRecOn with
  | nil => exact ⟨rfl, rfl⟩
  | append_singleton references reference ih =>
    rw [List.map_append, List.map_singleton, findAll_concat]
    exact ⟨(filters_strategy _ reference).trans ih.1, (unresolvedFilters_strategy _ reference).trans ih.2⟩

/-- What look-ups leave if a new resolver of the host makes them. -/
structure Records (h : Host) (qs : List Lookup) (x : Noted (List Found × Resolver)) : Prop where
  host : x.value.2.host = h
  asked : x.value.2.asked = qs.eraseDups
  known : ∀ q, x.value.2.known? q = if q ∈ qs then some (h.firstReply qs q) else none
  found : x.value.1 = qs.map (h.firstReply qs)
  unresolved : x.value.2.unresolvedFilters = (h.missing qs).countP fun q => q.kind = .filter
  warnings : x.warnings = (h.missing qs).map Lookup.warning

section
variable {h : Host} {qs : List Lookup} {x : Noted (List Found × Resolver)}

theorem Records.new (h : Host) : Records h [] (findAll [] { host := h }) where
  host := rfl
  asked := rfl
  known q := by
    obtain ⟨kind, reference⟩ := q
    cases kind <;> rfl
  found := rfl
  unresolved := rfl
  warnings := rfl

/-- What was found stays what is first found. -/
theorem Records.found_append (hx : Records h qs x) (q : Lookup) :
    x.value.1 ++ [h.firstReply (qs ++ [q]) q] = (qs ++ [q]).map (h.firstReply (qs ++ [q])) := by
  have hbefore : qs.map (h.firstReply (qs ++ [q])) = qs.map (h.firstReply qs) :=
    List.map_congr_left fun p hp => Host.firstReply_append_of_mem hp [q]
  rw [List.map_append, hbefore, ← hx.found, List.map_singleton]

/-- A question that was put before changes nothing. -/
theorem Records.andFind_of_mem (hx : Records h qs x) (hq : q ∈ qs) : Records h (qs ++ [q]) (andFind x q) := by
  have hknown := (hx.known q).trans (if_pos hq)
  have hx' : andFind x q = ⟨(x.value.1 ++ [h.firstReply (qs ++ [q]) q], x.value.2), x.warnings⟩ := by
    unfold andFind
    rw [find_of_known hknown, Host.firstReply_append_of_mem hq]
    exact congrArg (Noted.mk _) (List.append_nil _)
  rw [hx']
  constructor
  case host => exact hx.host
  case asked => rw [eraseDups_concat, if_pos hq, hx.asked]
  case known =>
    intro p
    have hmem : p ∈ qs ++ [q] ↔ p ∈ qs := by
      rw [List.mem_append, List.mem_singleton, or_iff_left_of_imp]
      rintro rfl
      exact hq
    dsimp only
    rw [hx.known p]
    by_cases hp : p ∈ qs
    · rw [if_pos hp, if_pos (hmem.mpr hp), Host.firstReply_append_of_mem hp]
    · rw [if_neg hp, if_neg (mt hmem.mp hp)]
  case found => exact hx.found_append q
  case unresolved => rw [Host.missing_concat_of_mem hq, hx.unresolved]
  case warnings => rw [Host.missing_concat_of_mem hq, hx.warnings]

/-- A new question is put to the host, behind the distinct ones before. -/
theorem Records.andFind_of_new (hx : Records h qs x) (hq : q ∉ qs) : Records h (qs ++ [q]) (andFind x q) := by
  have hreply : x.value.2.host.reply x.value.2.asked q = h.firstReply (qs ++ [q]) q := by
    rw [hx.host, hx.asked, Host.firstReply_append_of_new hq]
  have hmissing : h.missing (qs ++ [q]) = h.missing qs ++ if (h.firstReply (qs ++ [q]) q).isNone then [q] else [] := by
    rw [Host.missing_concat_of_new hq, Host.firstReply_append_of_new hq]
  have hx' : andFind x q =
      { value := (x.value.1 ++ [h.firstReply (qs ++ [q]) q], x.value.2.asking q)
        warnings := x.warnings ++ if (h.firstReply (qs ++ [q]) q).isNone then [q.warning] else [] } := by
    unfold andFind
    rw [find_of_new ((hx.known q).trans (if_neg hq)), hreply]
  rw [hx']
  constructor
  case host => rw [host_asking, hx.host]
  case asked => rw [asked_asking, hx.asked, eraseDups_concat, if_neg hq]
  case known =>
    intro p
    dsimp only
    rw [known?_asking, hreply, hx.known p]
    by_cases hpq : p = q
    · subst hpq
      rw [if_pos rfl, if_pos (by simp)]
    · by_cases hp : p ∈ qs
      · rw [if_neg hpq, if_pos hp, if_pos (List.mem_append_left _ hp), Host.firstReply_append_of_mem hp]
      · rw [if_neg hpq, if_neg hp, if_neg (by simp [hp, hpq])]
  case found => exact hx.found_append q
  case unresolved =>
    dsimp only
    rw [unresolvedFilters_asking, hreply, hx.unresolved, hmissing, List.countP_append]
    cases (h.firstReply (qs ++ [q]) q).isNone <;> simp [List.countP_cons]
  case warnings =>
    dsimp only
    rw [hx.warnings, hmissing, List.map_append]
    cases (h.firstReply (qs ++ [q]) q).isNone <;> rfl

theorem records_findAll (h : Host) (qs : List Lookup) : Records h qs (findAll qs { host := h }) := by
  induction qs using List.reverseRecOn with
  | nil => exact .new h
  | append_singleton qs q ih =>
    rw [findAll_concat]
    by_cases hq : q ∈ qs
    · exact ih.andFind_of_mem hq
    · exact ih.andFind_of_new hq

end

/-- Whatever a host answers and whichever look-ups are made, it is asked at most once for each reference of a kind, and
    what it answers then is found by all look-ups of the reference. Missing filters are counted and missing references
    are warned about once each. Further look-ups of strategies leave the filters and their count as they are. -/
theorem asks_once_for_each_reference (h : Host) (qs : List Lookup) :
    let x := findAll qs { host := h }
    let r := x.value.2
    (r.asked = qs.eraseDups ∧ r.asked.Nodup) ∧
      x.value.1 = qs.map (h.firstReply qs) ∧
      r.unresolvedFilters = (h.missing qs).countP (fun q => q.kind = .filter) ∧
      (x.warnings = (h.missing qs).map Lookup.warning ∧ x.warnings.Nodup) ∧
      ∀ references : List Iri,
        let r' := (findAll (references.map fun reference => ⟨.describeStrategy, reference⟩) r).value.2
        r'.filters = r.filters ∧ r'.unresolvedFilters = r.unresolvedFilters := by
  intro x r
  have hx : Records h qs x := records_findAll h qs
  have hasked : r.asked.Nodup := hx.asked ▸ nodup_eraseDups qs
  have hwarned : x.warnings.Nodup :=
    hx.warnings ▸ ((nodup_eraseDups qs).filter _).map Lookup.warning_injective
  exact ⟨⟨hx.asked, hasked⟩, hx.found, hx.unresolved, ⟨hx.warnings, hwarned⟩, findAll_strategies r⟩

end Resolver
end CollectionQuery
