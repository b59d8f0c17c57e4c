import CollectionQuery.Proofs.Collection.Assemble

/-! Rules of a collection and of its classes. A node that several of them link is one rule, which is read where it is
    linked first: in the graph of the collection if the collection itself links it, and in the API otherwise. -/

namespace CollectionQuery

/-! ### Sources -/

/-- Of the items with the same key, the first one stays. -/
theorem mem_eraseDupsBy_iff {α κ : Type} [DecidableEq κ] {key : α → κ} {a : α} : (as : List α) →
    (a ∈ as.eraseDupsBy (fun x y => key x = key y) ↔ as.find? (fun x => key x = key a) = some a)
  | [] => by simp
  | b :: bs => by
    have hlt : (bs.filter fun x => !decide (key x = key b)).length < bs.length + 1 :=
      Nat.lt_succ_of_le (List.length_filter_le _ _)
    rw [List.eraseDupsBy_cons, List.mem_cons, List.find?_cons]
    simp only [Bool.decide_eq_false]
    rw [mem_eraseDupsBy_iff]
    by_cases hb : key b = key a
    · have hnone : (bs.filter fun x => !decide (key x = key b)).find? (fun x => key x = key a) = none := by
        simp [hb]
      rw [hnone, decide_eq_true hb]
      simp [eq_comm]
    · have hrest : (bs.filter fun x => !decide (key x = key b)).find? (fun x => key x = key a) =
          bs.find? fun x => key x = key a := by
        rw [List.find?_filter]
        refine congrArg (List.find? · bs) (funext fun x => ?_)
        by_cases hx : key x = key a
        · simp [hx, Ne.symm hb]
        · simp [hx]
      have hne : a ≠ b := fun e => hb (e ▸ rfl)
      rw [hrest, decide_eq_false hb]
      simp [hne]
termination_by as => as.length

namespace Source
variable {s : Source} {rest : List Source} {predicates : List Iri} {g : Graph} {n : Term}

/-- The nodes that a source links by some predicates. -/
def links (s : Source) (predicates : List Iri) : List Term := predicates.flatMap s.objects

theorem find?_links (s : Source) (predicates : List Iri) (n : Term) :
    ((s.links predicates).map fun node => (s.graph, node)).find? (fun x => x.2 = n) =
      if n ∈ s.links predicates then some (s.graph, n) else none := by
  induction s.links predicates with
  | nil => rfl
  | cons node nodes ih =>
    rw [List.map_cons, List.find?_cons, ih]
    by_cases hn : node = n
    · simp [hn]
    · simp [hn, Ne.symm hn]

/-- A node is declared by the first source that links it. -/
theorem mem_declared_cons : (g, n) ∈ declared (s :: rest) predicates ↔
    if n ∈ s.links predicates then g = s.graph else (g, n) ∈ declared rest predicates := by
  have hown : (predicates.flatMap fun p => (s.objects p).map fun node => (s.graph, node)) =
      (s.links predicates).map fun node => (s.graph, node) := by
    rw [links, List.map_flatMap]
  rw [declared, mem_eraseDupsBy_iff, List.flatMap_cons, hown, List.find?_append, find?_links]
  split
  · simp [eq_comm]
  · rw [Option.none_or, declared, mem_eraseDupsBy_iff]

theorem mem_declared_ofClasses {api : Graph} {classes : List Iri} :
    (g, n) ∈ declared (ofClasses api classes) predicates ↔
      g = api ∧ ∃ c ∈ classes, n ∈ links ⟨api, .iri c⟩ predicates := by
  induction classes with
  | nil => simp [ofClasses, declared]
  | cons c classes ih =>
    rw [ofClasses, List.map_cons, mem_declared_cons, ← ofClasses, ih]
    split
    · next hn => simp [hn]
    · next hn => simp [hn]

end Source

/-! ### Assertions -/

namespace Collection
variable {iri : Iri} {graph api : Graph}

/-- The nodes of the assertions that a graph declares for a collection or a class. -/
def assertionNodes (g : Graph) (i : Iri) : List Term :=
  Source.links ⟨g, .iri i⟩ [Hydra.memberAssertion, Hydra.manages]

/-- The graph that describes an assertion: that of the collection if the collection declares it, or else the API. -/
def assertionGraph (iri : Iri) (graph api : Graph) (n : Term) : Graph :=
  if n ∈ assertionNodes graph iri then graph else api

/-- The assertions of a collection are those that it declares itself and those that its classes declare. -/
theorem mem_assertions_read {a : MemberAssertion} : a ∈ (read iri graph api).value.assertions ↔
    ∃ n, (n ∈ assertionNodes graph iri ∨ ∃ c ∈ (read iri graph api).value.classes, n ∈ assertionNodes api c) ∧
      MemberAssertion.read (assertionGraph iri graph api n) n = a := by
  have hread : (read iri graph api).value.assertions =
      (Source.declared (⟨graph, .iri iri⟩ :: Source.ofClasses api (classesOf iri graph api))
        [Hydra.memberAssertion, Hydra.manages]).map fun x => MemberAssertion.read x.1 x.2 := rfl
  have hclasses : (read iri graph api).value.classes = classesOf iri graph api := rfl
  rw [hread, hclasses, List.mem_map, Prod.exists, exists_comm]
  refine exists_congr fun n => ?_
  simp only [Source.mem_declared_cons, Source.mem_declared_ofClasses]
  by_cases hn : n ∈ assertionNodes graph iri
  · have hn' : n ∈ Source.links ⟨graph, .iri iri⟩ [Hydra.memberAssertion, Hydra.manages] := hn
    simp [assertionGraph, hn, hn']
  · have hn' : n ∉ Source.links ⟨graph, .iri iri⟩ [Hydra.memberAssertion, Hydra.manages] := hn
    simp [assertionGraph, hn', assertionNodes, and_assoc]

end Collection

namespace MemberQueries
open Collection

/-- Every pattern of a valid assertion that a class declares is a fragment of both queries. An assertion that the
    collection declares as well is the same one, described by the graph of the collection. -/
theorem class_assertions_apply (iri : Iri) (graph api : Graph) (params : SearchParams) (options : Options)
    (r : Resolver) {kind : Iri} (hkind : kind ∈ (Collection.read iri graph api).value.classes) {n : Term}
    (hn : n ∈ assertionNodes api kind)
    (hv : (MemberAssertion.read (assertionGraph iri graph api n) n).IsValid) :
    let c := (Collection.read iri graph api).value
    let fragments := sharedFragments c params options r
    ∃ queries ∈ (assemble c params options r).value.1, ∃ sorting ps,
      queries.members = selectMembers options.member fragments sorting queries.page ∧
      queries.total = selectTotal options.member fragments ∧
      (MemberAssertion.read (assertionGraph iri graph api n) n).patterns options.member = .ok ps ∧
      ∀ p ∈ ps, .required p ∈ fragments := by
  intro c fragments
  have ha : MemberAssertion.read (assertionGraph iri graph api n) n ∈ c.assertions :=
    mem_assertions_read.mpr ⟨n, .inr ⟨kind, hkind, hn⟩, rfl⟩
  obtain ⟨ps, hps⟩ := MemberAssertion.exists_patterns_iff.mpr hv
  refine ⟨queriesOf c params options r, mem_value_assemble.mpr ⟨⟨_, ha, hv⟩, rfl⟩, _, ps, rfl, rfl, hps, ?_⟩
  intro p hp
  exact List.mem_map_of_mem (List.mem_append_left _ (mem_assertionPatterns.mpr ⟨_, ha, ps, hps, hp⟩))

/-! ### Shelves and their class -/

open Library

def novelRule : Iri := ⟨"http://example.org/rule"⟩

/-- A class of shelves whose members are novels. -/
def novels : Graph := .ofList [
  ⟨.iri shelfClass, Hydra.memberAssertion, .iri novelRule⟩,
  ⟨.iri novelRule, Hydra.property, .iri genre⟩,
  ⟨.iri novelRule, Hydra.object, .literal (.plain "novel")⟩]

/-- A shelf of books that says something of the rule of its class and declares another. -/
def ownShelf : Graph := .ofList [
  ⟨.iri books, Rdf.type, .iri shelfClass⟩,
  ⟨.iri books, Hydra.manages, .blank "own"⟩,
  ⟨.blank "own", Hydra.property, .iri Rdf.type⟩,
  ⟨.blank "own", Hydra.object, .iri bookClass⟩,
  ⟨.iri novelRule, Hydra.object, .iri bookClass⟩]

/-- A shelf of books that declares the rule of its class to be another. -/
def otherShelf : Graph := .ofList [
  ⟨.iri books, Rdf.type, .iri shelfClass⟩,
  ⟨.iri books, Hydra.memberAssertion, .iri novelRule⟩,
  ⟨.iri novelRule, Hydra.property, .iri Rdf.type⟩,
  ⟨.iri novelRule, Hydra.object, .iri bookClass⟩]

theorem ownShelf_class_assertions_apply :
    let c := (Collection.read books ownShelf novels).value
    let fragments := sharedFragments c .empty {} { host := .ofRegistry [] [] }
    let rule := MemberAssertion.read novels (.iri novelRule)
    ∃ queries ∈ (assemble c .empty {} { host := .ofRegistry [] [] }).value.1, ∃ sorting ps,
      queries.members = selectMembers ⟨"member"⟩ fragments sorting queries.page ∧
      queries.total = selectTotal ⟨"member"⟩ fragments ∧ rule.patterns ⟨"member"⟩ = .ok ps ∧
      ∀ p ∈ ps, .required p ∈ fragments := by
  have hkind : shelfClass ∈ (Collection.read books ownShelf novels).value.classes := by decide +kernel
  have hn : .iri novelRule ∈ assertionNodes novels shelfClass := by decide +kernel
  have hv : (MemberAssertion.read novels (.iri novelRule)).IsValid :=
    MemberAssertion.exists_patterns_iff (v := ⟨"member"⟩).mp ⟨_, rfl⟩
  exact class_assertions_apply _ ownShelf novels .empty {} { host := .ofRegistry [] [] } hkind hn hv

/-- Where the collection declares the rule of its class, what the API says of the rule is not looked at. -/
theorem otherShelf_declares_rule_of_class :
    let c := (Collection.read books otherShelf novels).value
    let rule := MemberAssertion.read novels (.iri novelRule)
    let p := Pattern.triple (.var ⟨"member"⟩) (.iri genre) (.term (.literal (.plain "novel")))
    shelfClass ∈ c.classes ∧ .iri novelRule ∈ novels.objects (.iri shelfClass) Hydra.memberAssertion ∧
    rule.IsValid ∧ rule.patterns ⟨"member"⟩ = .ok [p] ∧
    .required p ∉ sharedFragments c .empty {} { host := .ofRegistry [] [] } := by
  intro c rule p
  have hp : rule.patterns ⟨"member"⟩ = .ok [p] := rfl
  exact ⟨by decide +kernel, by decide +kernel, MemberAssertion.exists_patterns_iff.mp ⟨_, hp⟩, hp, by decide +kernel⟩

end MemberQueries
end CollectionQuery
