import CollectionQuery.Sparql.Algebra
import Mathlib.Data.Finmap
import Mathlib.Data.Multiset.Bind
import Mathlib.Data.Multiset.Filter
import Mathlib.Data.Multiset.Dedup

/-! Rows, which bind keys to terms, and bags of them. A join merges each two rows that agree on the keys that both
    bind; a left join also keeps the rows that agree with none. -/

namespace CollectionQuery

abbrev Row (κ : Type) := Finmap fun _ : κ => Term

namespace Row

variable {κ : Type} [DecidableEq κ]

/-- The rows agree on the keys that both bind. -/
def Compatible (a b : Row κ) : Prop := ∀ k ∈ a.keys, k ∈ b.keys → a.lookup k = b.lookup k

instance (a b : Row κ) : Decidable (Compatible a b) :=
  inferInstanceAs (Decidable (∀ k ∈ a.keys, k ∈ b.keys → a.lookup k = b.lookup k))

/-- Each row of the first bag with each row of the second one that agrees with it. -/
def join (A B : Multiset (Row κ)) : Multiset (Row κ) := A.bind fun a => (B.filter (Compatible a)).map (a ∪ ·)

/-- The rows of the first bag that agree with no row of the second one. -/
def diff (A B : Multiset (Row κ)) : Multiset (Row κ) := A.filter fun a => ∀ b ∈ B, ¬Compatible a b

def leftJoin (A B : Multiset (Row κ)) : Multiset (Row κ) := join A B + diff A B

/-- The row binds all that `a` binds. -/
def Extends (r a : Row κ) : Prop := ∀ k t, a.lookup k = some t → r.lookup k = some t

/-- The part of a row that binds some keys. -/
def restrict (ks : List κ) (r : Row κ) : Row κ where
  entries := r.entries.filter fun e => e.1 ∈ ks
  nodupKeys := by
    rw [← Multiset.nodup_keys]
    exact Multiset.nodup_of_le (Multiset.map_le_map (Multiset.filter_le _ _)) (Multiset.nodup_keys.mpr r.nodupKeys)

/-! ### Values -/

theorem lookup_union (a b : Row κ) (k : κ) : (a ∪ b).lookup k = (a.lookup k).or (b.lookup k) := by
  by_cases h : k ∈ a
  · obtain ⟨t, ht⟩ := Finmap.mem_iff.mp h
    rw [Finmap.lookup_union_left h, ht, Option.some_or]
  · rw [Finmap.lookup_union_right h, Finmap.lookup_eq_none.mpr h, Option.none_or]

theorem lookup_singleton (k k' : κ) (t : Term) :
    (Finmap.singleton k t : Row κ).lookup k' = if k' = k then some t else none := by
  split
  · next h => rw [h, Finmap.lookup_singleton_eq]
  · next h => exact Finmap.lookup_eq_none.mpr fun hm => h ((Finmap.mem_singleton _ _ _).mp hm)

theorem lookup_restrict (ks : List κ) (r : Row κ) (k : κ) :
    (restrict ks r).lookup k = if k ∈ ks then r.lookup k else none := by
  refine Option.ext fun t => ?_
  rw [Finmap.lookup_eq_some_iff]
  split
  · next h => simp [restrict, h, Finmap.lookup_eq_some_iff]
  · next h => simp [restrict, h]

theorem extends_union (a b : Row κ) : Extends (a ∪ b) a := fun k t h => by rw [lookup_union, h, Option.some_or]

theorem restrict_singleton_of_lookup {r : Row κ} {k : κ} {t : Term} (h : r.lookup k = some t) :
    restrict [k] r = Finmap.singleton k t := by
  refine Finmap.ext_lookup fun k' => ?_
  rw [lookup_restrict, lookup_singleton]
  by_cases hk : k' = k
  · subst hk
    simp [h]
  · simp [hk]

theorem singleton_injective (k : κ) : Function.Injective fun t => (Finmap.singleton k t : Row κ) := by
  intro s t h
  have hl := congrArg (Finmap.lookup k) h
  simpa [lookup_singleton] using hl

/-- Rows that all bind a key, cut down to it. -/
theorem map_restrict_singleton {A : Multiset (Row κ)} {k : κ} (h : ∀ a ∈ A, k ∈ a) :
    A.map (restrict [k]) = (A.filterMap (Finmap.lookup k)).map fun t => Finmap.singleton k t := by
  induction A using Multiset.induction with
  | empty => rfl
  | cons a A ih =>
    obtain ⟨t, ht⟩ := Finmap.mem_iff.mp (h a (Multiset.mem_cons_self a A))
    rw [Multiset.map_cons, Multiset.filterMap_cons_some _ a A ht, Multiset.map_cons, restrict_singleton_of_lookup ht,
      ih fun b hb => h b (Multiset.mem_cons_of_mem hb)]

/-! ### Agreement -/

theorem compatible_iff {a b : Row κ} :
    Compatible a b ↔ ∀ k s t, a.lookup k = some s → b.lookup k = some t → s = t := by
  constructor
  · intro h k s t hs ht
    have := h k (Finmap.mem_keys.mpr (Finmap.mem_of_lookup_eq_some hs))
      (Finmap.mem_keys.mpr (Finmap.mem_of_lookup_eq_some ht))
    rw [hs, ht] at this
    exact Option.some.inj this
  · intro h k ha hb
    obtain ⟨s, hs⟩ := Finmap.mem_iff.mp (Finmap.mem_keys.mp ha)
    obtain ⟨t, ht⟩ := Finmap.mem_iff.mp (Finmap.mem_keys.mp hb)
    rw [hs, ht, h k s t hs ht]

theorem Compatible.symm {a b : Row κ} (h : Compatible a b) : Compatible b a :=
  compatible_iff.mpr fun k s t hs ht => (compatible_iff.mp h k t s ht hs).symm

@[simp] theorem compatible_empty (a : Row κ) : Compatible a ∅ :=
  compatible_iff.mpr fun _ _ _ _ h => by simp at h

@[simp] theorem empty_compatible (a : Row κ) : Compatible ∅ a := (compatible_empty a).symm

theorem union_self (a : Row κ) : a ∪ a = a := Finmap.ext_lookup fun k => by rw [lookup_union, Option.or_self]

theorem compatible_singleton {k : κ} {s t : Term} :
    Compatible (Finmap.singleton k s : Row κ) (Finmap.singleton k t) ↔ s = t := by
  rw [compatible_iff]
  constructor
  · exact fun h => h k s t (by simp) (by simp)
  · rintro rfl k' x y hx hy
    rw [hx] at hy
    exact Option.some.inj hy

/-- A row with one key agrees with a row that has the same value for it, and adds nothing to it. -/
theorem compatible_singleton_iff {b : Row κ} {k : κ} {s t : Term} (h : b.lookup k = some t) :
    Compatible (Finmap.singleton k s) b ↔ s = t := by
  rw [compatible_iff]
  constructor
  · exact fun hc => hc k s t (by simp) h
  · rintro rfl k' x y hx hy
    rw [lookup_singleton] at hx
    split at hx
    · next hk =>
      cases hx
      rw [hk, h] at hy
      exact Option.some.inj hy
    · cases hx

theorem singleton_union {b : Row κ} {k : κ} {t : Term} (h : b.lookup k = some t) : Finmap.singleton k t ∪ b = b := by
  refine Finmap.ext_lookup fun k' => ?_
  rw [lookup_union, lookup_singleton]
  by_cases hk : k' = k
  · rw [if_pos hk, Option.some_or, hk, h]
  · rw [if_neg hk, Option.none_or]

/-- Three rows agree pairwise whichever two are merged first. -/
theorem compatible_union_assoc {a b c : Row κ} :
    Compatible a b ∧ Compatible (a ∪ b) c ↔ Compatible b c ∧ Compatible a (b ∪ c) := by
  simp only [compatible_iff]
  constructor
  · rintro ⟨hab, hc⟩
    refine ⟨fun k s t hs ht => ?_, fun k s t hs ht => ?_⟩
    · cases ha : a.lookup k with
      | none => exact hc k s t (by rw [lookup_union, ha, Option.none_or, hs]) ht
      | some x => exact (hab k x s ha hs).symm.trans (hc k x t (extends_union a b k x ha) ht)
    · rw [lookup_union] at ht
      cases hb : b.lookup k with
      | none =>
        rw [hb, Option.none_or] at ht
        exact hc k s t (extends_union a b k s hs) ht
      | some x =>
        rw [hb, Option.some_or] at ht
        exact (hab k s x hs hb).trans (Option.some.inj ht)
  · rintro ⟨hbc, ha⟩
    refine ⟨fun k s t hs ht => ha k s t hs (extends_union b c k t ht), fun k s t hs ht => ?_⟩
    rw [lookup_union] at hs
    cases hx : a.lookup k with
    | none =>
      rw [hx, Option.none_or] at hs
      exact hbc k s t hs ht
    | some x =>
      rw [hx, Option.some_or] at hs
      obtain rfl := Option.some.inj hs
      cases hb : b.lookup k with
      | none => exact ha k x t hx (by rw [lookup_union, hb, Option.none_or, ht])
      | some y => exact (ha k x y hx (extends_union b c k y hb)).trans (hbc k y t hb ht)

/-! ### Joins -/

section Join
variable {A B C : Multiset (Row κ)} {r : Row κ}

theorem mem_join : r ∈ join A B ↔ ∃ a ∈ A, ∃ b ∈ B, Compatible a b ∧ a ∪ b = r := by
  simp [join, and_assoc]

theorem mem_diff : r ∈ diff A B ↔ r ∈ A ∧ ∀ b ∈ B, ¬Compatible r b := Multiset.mem_filter

@[simp] theorem empty_join (A : Multiset (Row κ)) : join {∅} A = A := by
  simp [join, Multiset.filter_eq_self.mpr]

@[simp] theorem join_empty (A : Multiset (Row κ)) : join A {∅} = A := by
  have h (a : Row κ) : ({∅} : Multiset (Row κ)).filter (Compatible a) = {∅} := Multiset.filter_eq_self.mpr (by simp)
  simp only [join, h, Multiset.map_singleton, Finmap.union_empty]
  exact (Multiset.bind_singleton A id).trans (Multiset.map_id A)

@[simp] theorem zero_join (A : Multiset (Row κ)) : join 0 A = 0 := Multiset.zero_bind _

theorem join_ite (A : Multiset (Row κ)) (p : Prop) [Decidable p] :
    join A (if p then {∅} else 0) = if p then A else 0 := by
  split
  · exact join_empty A
  · simp [join]

theorem ite_join (A : Multiset (Row κ)) (p : Prop) [Decidable p] :
    join (if p then {∅} else 0) A = if p then A else 0 := by
  split
  · exact empty_join A
  · simp [join]

theorem join_assoc (A B C : Multiset (Row κ)) : join (join A B) C = join A (join B C) := by
  unfold join
  rw [Multiset.bind_assoc]
  refine Multiset.bind_congr fun a _ => ?_
  rw [Multiset.bind_map, Multiset.bind_filter, Multiset.filter_bind, Multiset.map_bind]
  refine Multiset.bind_congr fun b _ => ?_
  rw [Multiset.filter_map, Multiset.map_map, Multiset.filter_filter]
  split
  · next hab =>
    have hc (c : Row κ) : Compatible (a ∪ b) c ↔ Compatible a (b ∪ c) ∧ Compatible b c :=
      ⟨fun h => (compatible_union_assoc.mp ⟨hab, h⟩).symm, fun h => (compatible_union_assoc.mpr h.symm).2⟩
    simp only [hc, Function.comp_def, Finmap.union_assoc]
  · next hab =>
    have hc (c : Row κ) : ¬(Compatible a (b ∪ c) ∧ Compatible b c) := fun h => hab (compatible_union_assoc.mpr h.symm).1
    simp only [Function.comp_apply, hc, Multiset.filter_false, Multiset.map_zero]

/-- Rows that agree are merged alike from both sides. -/
theorem Compatible.union_comm {a b : Row κ} (h : Compatible a b) : a ∪ b = b ∪ a := by
  refine Finmap.ext_lookup fun k => ?_
  rw [lookup_union, lookup_union]
  cases ha : a.lookup k with
  | none => rw [Option.none_or, Option.or_none]
  | some s =>
    cases hb : b.lookup k with
    | none => rfl
    | some t => exact congrArg some (compatible_iff.mp h k s t ha hb)

theorem join_eq_bind (A B : Multiset (Row κ)) :
    join A B = A.bind fun a => B.bind fun b => if Compatible a b then {a ∪ b} else 0 := by
  unfold join
  refine Multiset.bind_congr fun a _ => ?_
  rw [← Multiset.bind_filter, Multiset.bind_singleton]

theorem join_comm (A B : Multiset (Row κ)) : join A B = join B A := by
  rw [join_eq_bind, join_eq_bind, Multiset.bind_bind]
  refine Multiset.bind_congr fun b _ => Multiset.bind_congr fun a _ => ?_
  by_cases h : Compatible a b
  · rw [if_pos h, if_pos h.symm, h.union_comm]
  · rw [if_neg h, if_neg (mt Compatible.symm h)]

@[simp] theorem join_zero (A : Multiset (Row κ)) : join A 0 = 0 := by rw [join_comm, zero_join]

end Join

/-! ### Rows of joins and the rows they come from -/

section Extends
variable {A B : Multiset (Row κ)}

theorem Extends.refl (a : Row κ) : Extends a a := fun _ _ h => h

theorem Extends.trans {a b c : Row κ} (h₁ : Extends c b) (h₂ : Extends b a) : Extends c a := fun k t h =>
  h₁ k t (h₂ k t h)

theorem extends_empty (r : Row κ) : Extends r ∅ := fun _ _ h => by simp at h

theorem exists_extends_of_mem_join {r : Row κ} (h : r ∈ join A B) : ∃ a ∈ A, Extends r a := by
  obtain ⟨a, ha, b, -, -, rfl⟩ := mem_join.mp h
  exact ⟨a, ha, extends_union a b⟩

theorem exists_extends_of_mem_leftJoin {r : Row κ} (h : r ∈ leftJoin A B) : ∃ a ∈ A, Extends r a := by
  rcases Multiset.mem_add.mp h with h | h
  · exact exists_extends_of_mem_join h
  · exact ⟨r, (mem_diff.mp h).1, .refl r⟩

/-- A left join loses no row of the first bag. -/
theorem exists_mem_leftJoin_extends {a : Row κ} (ha : a ∈ A) : ∃ r ∈ leftJoin A B, Extends r a := by
  by_cases h : ∃ b ∈ B, Compatible a b
  · obtain ⟨b, hb, hc⟩ := h
    exact ⟨a ∪ b, Multiset.mem_add.mpr (.inl (mem_join.mpr ⟨a, ha, b, hb, hc, rfl⟩)), extends_union a b⟩
  · exact ⟨a, Multiset.mem_add.mpr (.inr (mem_diff.mpr ⟨ha, fun b hb hc => h ⟨b, hb, hc⟩⟩)), .refl a⟩

end Extends

end Row
end CollectionQuery
