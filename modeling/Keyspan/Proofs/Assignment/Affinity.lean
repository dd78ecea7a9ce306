import Keyspan.Affinity
import Keyspan.Proofs.Assignment.Locality
import Mathlib.Algebra.BigOperators.Group.List.Lemmas

/-!
# Affinities count what the first phase places

What a scan prefers is told by two maps, one from addresses to endpoints and one from endpoints to
counts; what it gets in the first phase is told by the slots of every host taking turns. Both go by
the address of an endpoint alone, so they agree: the affinity of an address is what all its slots
together are given, however many endpoints share the address and whatever their ports are.

Results:
* `lookup_firstByAddress`, `keys_firstByAddress`: which endpoint stands for an address, and in which
  order the addresses come.
* `lookup_foldl_countHosted`: an endpoint counts the partitions that it stands for.
* `ofEndpoints_eq_filterMap`: the affinities, address by address.
* `ofEndpoints_agrees`: the affinities are one for every address that hosts a partition, in order,
  and count what the first phase places there.
-/

namespace Keyspan

open Finset (range)

/-! ## Distinct values in order of first occurrence -/

theorem eraseDups_concat {α : Type} [DecidableEq α] (xs : List α) (x : α) :
    (xs ++ [x]).eraseDups = if x ∈ xs then xs.eraseDups else xs.eraseDups ++ [x] := by
  rw [List.eraseDups_append]
  by_cases h : x ∈ xs <;> simp [List.removeAll, List.eraseDups_cons, h]

theorem nodup_eraseDups {α : Type} [DecidableEq α] (xs : List α) : xs.eraseDups.Nodup := by
  induction xs using List.reverseRecOn with
  | nil => exact List.nodup_nil
  | append_singleton xs x ih =>
    rw [eraseDups_concat]
    split
    · exact ih
    · rename_i hx
      refine List.nodup_append.mpr ⟨ih, List.nodup_singleton x, fun y hy z hz heq => hx ?_⟩
      rw [← List.mem_singleton.mp hz, ← heq]
      exact List.mem_eraseDups.mp hy

/-- How often some distinct values of a list occur in it, added up. -/
theorem sum_map_count {α : Type} [DecidableEq α] {values xs : List α} (h : values.Nodup)
    (hsub : ∀ v ∈ values, v ∈ xs) :
    (values.map fun v => xs.count v).sum = xs.countP fun x => x ∈ values := by
  have hperm : values.Perm (xs.dedup.filter fun x => x ∈ values) := by
    rw [List.perm_ext_iff_of_nodup h (xs.nodup_dedup.filter _)]
    intro v
    rw [List.mem_filter, List.mem_dedup, decide_eq_true_eq]
    exact ⟨fun hv => ⟨hsub v hv, hv⟩, And.right⟩
  rw [← List.sum_map_count_dedup_filter_eq_countP]
  exact (hperm.map _).sum_eq

namespace Affinity

/-! ## The endpoint of an address -/

theorem lookup_firstByAddress (endpoints : List Endpoint) (host : String) :
    (firstByAddress endpoints).lookup host = endpoints.find? fun e => e.address == host := by
  induction endpoints using List.reverseRecOn with
  | nil => rfl
  | append_singleton endpoints e ih =>
    unfold firstByAddress at ih ⊢
    rw [List.foldl_concat, OrderedMap.lookup_putIfAbsent, ih, List.find?_append]
    simp [List.find?_singleton, eq_comm (a := host)]

/-- **Addresses come in order of first occurrence.** -/
theorem keys_firstByAddress (endpoints : List Endpoint) :
    (firstByAddress endpoints).keys = (endpoints.map Endpoint.address).eraseDups := by
  induction endpoints using List.reverseRecOn with
  | nil => rfl
  | append_singleton endpoints e ih =>
    unfold firstByAddress at ih ⊢
    rw [List.foldl_concat, OrderedMap.keys_putIfAbsent, ih, List.map_append, List.map_singleton,
      eraseDups_concat]
    simp only [List.mem_eraseDups]

/-! ## Counting -/

/-- The affinity of an endpoint for a number of partitions; for none of them there is none. -/
def ofCount (e : Endpoint) : Nat → Option Affinity
  | 0 => none
  | n + 1 => some ⟨e, n + 1⟩

theorem lookup_addOne_self {counted : OrderedMap Endpoint Affinity} {e : Endpoint} {n : Nat}
    (h : counted.lookup e = ofCount e n) : (addOne counted e).lookup e = ofCount e (n + 1) := by
  unfold addOne
  rw [h]
  cases n <;> exact OrderedMap.lookup_put_self _ _ _

theorem lookup_addOne_of_ne (counted : OrderedMap Endpoint Affinity) {e other : Endpoint}
    (h : other ≠ e) : (addOne counted e).lookup other = counted.lookup other := by
  unfold addOne
  cases counted.lookup e <;> exact OrderedMap.lookup_put_of_ne _ h _

/-- **An endpoint counts the partitions that it stands for**, if there are any. -/
theorem lookup_foldl_countHosted (first : OrderedMap String Endpoint) (partitions : List Hosted)
    (e : Endpoint) :
    (partitions.foldl (countHosted first) .empty).lookup e =
      ofCount e (partitions.countP fun h => first.lookup h.host = some e) := by
  induction partitions using List.reverseRecOn with
  | nil => rfl
  | append_singleton partitions h ih =>
    rw [List.foldl_concat, List.countP_append, List.countP_singleton]
    unfold countHosted at ih ⊢
    cases hfirst : first.lookup h.host with
    | none => simpa using ih
    | some host =>
      dsimp only
      by_cases he : e = host
      · subst he
        rw [lookup_addOne_self ih, if_pos (decide_eq_true rfl)]
      · rw [lookup_addOne_of_ne _ he, ih, if_neg (by simp [Ne.symm he])]
        rfl

/-! ## Affinities by address -/

theorem lookup_firstByAddress_eq_some_iff {endpoints : List Endpoint} {host other : String}
    {e : Endpoint} (h : (firstByAddress endpoints).lookup host = some e) :
    (firstByAddress endpoints).lookup other = some e ↔ other = host := by
  have haddress : ∀ {a : String}, (firstByAddress endpoints).lookup a = some e → e.address = a :=
    fun ha => by
      rw [lookup_firstByAddress] at ha
      have hfound := List.find?_some ha
      exact beq_iff_eq.mp hfound
  constructor
  · intro ho
    rw [← haddress ho, haddress h]
  · rintro rfl
    exact h

/-- **The affinities, address by address**: for every address in order of first occurrence its
first endpoint, if it hosts a partition. -/
theorem ofEndpoints_eq_filterMap (partitions : List Hosted) (endpoints : List Endpoint) :
    ofEndpoints partitions endpoints =
      (endpoints.map Endpoint.address).eraseDups.filterMap fun host =>
        (endpoints.find? fun e => e.address == host).bind fun e =>
          ofCount e ((partitions.map Hosted.host).count host) := by
  unfold ofEndpoints
  dsimp only
  rw [← OrderedMap.filterMap_lookup_keys (by rw [keys_firstByAddress]; exact nodup_eraseDups _),
    List.filterMap_filterMap, keys_firstByAddress]
  refine List.filterMap_congr fun host _ => ?_
  rw [← lookup_firstByAddress]
  cases hfirst : (firstByAddress endpoints).lookup host with
  | none => rfl
  | some e =>
    rw [Option.bind_some, Option.bind_some, lookup_foldl_countHosted, List.count, List.countP_map]
    refine congrArg (ofCount e) (List.countP_congr fun h _ => ?_)
    rw [decide_eq_true_eq, lookup_firstByAddress_eq_some_iff hfirst]
    exact beq_iff_eq.symm

/-- An affinity is that of the first endpoint of its address, and counts the partitions there. -/
theorem of_mem_ofEndpoints {partitions : List Hosted} {endpoints : List Endpoint} {a : Affinity}
    (h : a ∈ ofEndpoints partitions endpoints) :
    (endpoints.find? fun e => e.address == a.endpoint.address) = some a.endpoint ∧
      a.partitions = (partitions.map Hosted.host).count a.endpoint.address := by
  rw [ofEndpoints_eq_filterMap] at h
  obtain ⟨host, -, h⟩ := List.mem_filterMap.mp h
  obtain ⟨e, hfind, hcount⟩ := Option.bind_eq_some_iff.mp h
  have hfound := List.find?_some hfind
  have hhost : e.address = host := beq_iff_eq.mp hfound
  cases hn : (partitions.map Hosted.host).count host with
  | zero =>
    rw [hn] at hcount
    exact nomatch hcount
  | succ n =>
    rw [hn] at hcount
    obtain rfl := Option.some.inj hcount
    rw [hhost]
    exact ⟨hfind, hn.symm⟩

/-- **The addresses of affinities** are those that host a partition, in order of first
occurrence. -/
theorem map_address_ofEndpoints (partitions : List Hosted) (endpoints : List Endpoint) :
    (ofEndpoints partitions endpoints).map (fun a => a.endpoint.address) =
      (endpoints.map Endpoint.address).eraseDups.filter fun host =>
        host ∈ partitions.map Hosted.host := by
  rw [ofEndpoints_eq_filterMap, List.map_filterMap, ← List.filterMap_eq_filter]
  refine List.filterMap_congr fun host hmem => ?_
  obtain ⟨first, hfirst, haddress⟩ := List.mem_map.mp (List.mem_eraseDups.mp hmem)
  cases hfind : endpoints.find? fun e => e.address == host with
  | none =>
    exact absurd (beq_iff_eq.mpr haddress) (List.find?_eq_none.mp hfind first hfirst)
  | some e =>
    have hfound := List.find?_some hfind
    have hhost : e.address = host := beq_iff_eq.mp hfound
    rw [Option.bind_some]
    cases hn : (partitions.map Hosted.host).count host with
    | zero =>
      have hnone := List.count_eq_zero.mp hn
      simp [ofCount, Option.guard, hnone]
    | succ n =>
      have hsome : host ∈ partitions.map Hosted.host :=
        List.count_pos_iff.mp (hn ▸ Nat.succ_pos n)
      simp only [ofCount, Option.map_some, Option.guard, hsome, hhost, decide_true, if_true]

end Affinity

namespace Layout

theorem countP_hasHome (partitions : List Hosted) (endpoints : List Endpoint) :
    (List.range partitions.length).countP (ofEndpoints partitions endpoints).hasHome =
      (partitions.map Hosted.host).countP fun host => host ∈ endpoints.map Endpoint.address := by
  rw [List.countP_map]
  conv_rhs => rw [← filterMap_getElem?_range partitions, List.countP_filterMap]
  refine List.countP_congr fun p _ => ?_
  rw [hasHome_ofEndpoints_iff]
  cases partitions[p]? <;> simp

/-- **The slots of an address are given the partitions that live there**, if it has any slots. -/
theorem Homed.sum_countAt_address {partitions : List Hosted} {endpoints : List Endpoint}
    {home : Layout} {placed : List Nat}
    (h : Homed (ofEndpoints partitions endpoints) (List.range partitions.length) home placed)
    {e : Endpoint} (he : e ∈ endpoints) :
    ∑ slot : Fin endpoints.length with (endpoints.get slot).address = e.address, home.countAt slot =
      (partitions.map Hosted.host).count e.address := by
  have hendpoints : home.endpoints = endpoints := h.endpoints
  have hsize : home.size = endpoints.length := by rw [h.turns.size, hendpoints]
  have haddress : ∀ slot : Fin endpoints.length,
      home.addressOf slot = some (endpoints.get slot).address := fun slot => by
    unfold addressOf
    rw [hendpoints, List.getElem?_eq_getElem slot.isLt]
    rfl
  obtain ⟨slot, hslot, rfl⟩ := List.mem_iff_getElem.mp he
  rw [List.count, List.countP_map]
  refine Eq.trans ?_ (h.sum_countAt_host (haddress ⟨slot, hslot⟩))
  rw [hsize, Finset.sum_filter, Finset.sum_filter, Finset.sum_range]
  refine Finset.sum_congr rfl fun other _ => ?_
  simp only [haddress, Option.some_inj]

end Layout

namespace Affinity

/-- **Affinities agree with the first phase.** There is one for every address of an endpoint that
hosts a partition, in the order in which the addresses first occur. It is that of the first endpoint
with the address, and its number is that of the partitions there, which is also what the first phase
gives to all slots of the address together; so all affinities add up to the partitions that the
phase places, each of which it places once. -/
theorem ofEndpoints_agrees (partitions : List Hosted) (endpoints : List Endpoint) :
    let affinities := ofEndpoints partitions endpoints
    let home := (Layout.ofEndpoints partitions endpoints).placeLocal
    affinities.map (fun a => a.endpoint.address) =
        ((endpoints.map Endpoint.address).eraseDups.filter fun host =>
          host ∈ partitions.map Hosted.host) ∧
      (∀ a ∈ affinities,
        (endpoints.find? fun e => e.address == a.endpoint.address) = some a.endpoint ∧
        a.partitions = (partitions.map Hosted.host).count a.endpoint.address ∧
        a.partitions = ∑ slot : Fin endpoints.length with
          (endpoints.get slot).address = a.endpoint.address, home.1.countAt slot) ∧
      (affinities.map Affinity.partitions).sum = home.2.length ∧ home.2.Nodup := by
  intro affinities home
  have hhomed : Layout.Homed (Layout.ofEndpoints partitions endpoints)
      (List.range partitions.length) home.1 home.2 :=
    Layout.placeLocal_homed (Layout.ofEndpoints_turns partitions endpoints)
  have haddresses := map_address_ofEndpoints partitions endpoints
  refine ⟨haddresses, fun a ha => ?_, ?_, ?_⟩
  · obtain ⟨hfirst, hcount⟩ := of_mem_ofEndpoints ha
    exact ⟨hfirst, hcount,
      hcount.trans (hhomed.sum_countAt_address (List.mem_of_find?_eq_some hfirst)).symm⟩
  · have hcounts : affinities.map Affinity.partitions =
        (affinities.map fun a => a.endpoint.address).map
          fun host => (partitions.map Hosted.host).count host := by
      rw [List.map_map]
      exact List.map_congr_left fun a ha => (of_mem_ofEndpoints ha).2
    have hplaced : home.2.length = (partitions.map Hosted.host).countP
        fun host => host ∈ endpoints.map Endpoint.address := by
      rw [hhomed.chosen, ← List.countP_eq_length_filter, Layout.countP_hasHome]
    rw [hcounts, haddresses, hplaced,
      sum_map_count ((nodup_eraseDups _).filter _) fun host hmem => by
        simpa using (List.mem_filter.mp hmem).2]
    refine List.countP_congr fun host hmem => ?_
    rw [decide_eq_true_eq, decide_eq_true_eq, List.mem_filter, List.mem_eraseDups]
    exact and_iff_left (decide_eq_true hmem)
  · rw [hhomed.chosen]
    exact List.nodup_range.filter _

end Affinity

end Keyspan
