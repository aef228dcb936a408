/-
This file is about the shares that weights give to the servers of an upstream.

A round-robin balancer goes through a list in which every eligible server stands as often as
it weighs, and keeps its index between calls. It therefore fails where the index is beyond
the list of the present call, because the list got shorter or no server weighs anything. On
a fixed list it goes round and round, so that one turn gives every server its weight.

The loop of `ip_hash` gives every server as many residues of the total as it weighs.
-/

import LocalNetwork.BackupServers
import LocalNetwork.Transition

namespace LocalNetwork

variable {servers : List UpstreamServer}

namespace RoundRobinBalancer

/-! ### Calls with any lists -/

/-- A call of `select` with a list, seen as a step of the balancer. -/
def step (balancer : RoundRobinBalancer) (servers : List UpstreamServer) :
    Option RoundRobinBalancer :=
  some (balancer.select servers).2

/-- There is nothing to choose from, or the index is below the total weight of what there is to
choose from, where a negative weight counts as none. -/
def Fits (balancer : RoundRobinBalancer) (servers : List UpstreamServer) : Prop :=
  available servers = [] ∨
    balancer.index < ((available servers).map fun server => server.weight.toNat).sum

instance (balancer : RoundRobinBalancer) (servers : List UpstreamServer) :
    Decidable (balancer.Fits servers) :=
  inferInstanceAs (Decidable (available servers = [] ∨
    balancer.index < ((available servers).map fun server => server.weight.toNat).sum))

theorem weighted_eq_repeated (servers : List UpstreamServer) :
    weighted servers = repeated UpstreamServer.weight (available servers) := rfl

theorem fits_iff_inRange {balancer : RoundRobinBalancer} :
    balancer.Fits servers ↔ balancer.InRange servers := by
  rw [Fits, InRange, weighted_eq_repeated, repeated_length]

/-- A call gives an eligible server or none exactly if the index fits the list. -/
theorem obeys_select_iff {balancer : RoundRobinBalancer} :
    Obeys servers (balancer.select servers).1 ↔ balancer.Fits servers := by
  rw [fits_iff_inRange]
  refine ⟨fun obeys => ?_, fun inRange => (roundRobin_select inRange).1⟩
  by_contra outOfRange
  obtain ⟨present, beyond⟩ := not_or.mp outOfRange
  obtain ⟨chosen, selected, -⟩ := obeys
  rw [select, if_neg present, List.getElem?_eq_none (Nat.le_of_not_lt beyond)] at selected
  cases selected

/-- In a sequence of calls on one balancer, each with a list of its own, every call gives an
eligible server of its list, or none when there is none, if and only if at every call the index fits
the list. -/
theorem select_never_fails_iff (lists : List (List UpstreamServer)) :
    (∀ before servers after reached, lists = before ++ servers :: after →
      runFrom step init before = some reached → Obeys servers (reached.select servers).1) ↔
    HoldsAlong step Fits init lists := by
  rw [holdsAlong_iff]
  simp only [obeys_select_iff]

/-- The second of two servers goes down after the first call. -/
theorem select_fails :
    ∃ reached,
      runFrom step init [[⟨"a", 80, 1, false, false⟩, ⟨"b", 80, 1, false, false⟩]] = some reached ∧
        (reached.select [⟨"a", 80, 1, false, false⟩, ⟨"b", 80, 1, false, true⟩]).1 =
            .error .indexError ∧
          ¬ Obeys [⟨"a", 80, 1, false, false⟩, ⟨"b", 80, 1, false, true⟩]
            (reached.select [⟨"a", 80, 1, false, false⟩, ⟨"b", 80, 1, false, true⟩]).1 := by
  refine ⟨⟨1⟩, rfl, by decide, ?_⟩
  rintro ⟨chosen, selected, -⟩
  cases selected

/-! ### Calls with one list -/

/-- Whether a server is among those that a call chooses from. -/
def isEligible (servers : List UpstreamServer) (server : UpstreamServer) : Bool :=
  if servers.any fun other => !other.down && !other.backup then !server.down && !server.backup
  else server.backup && !server.down

theorem available_eq_filter (servers : List UpstreamServer) :
    available servers = servers.filter (isEligible servers) := by
  rw [available]
  by_cases primary : servers.any (fun other => !other.down && !other.backup) = true
  · have found : servers.filter (fun other => !other.down && !other.backup) ≠ [] := by
      obtain ⟨other, member, up⟩ := List.any_eq_true.mp primary
      exact List.ne_nil_of_mem (List.mem_filter.mpr ⟨member, up⟩)
    rw [if_neg found]
    exact List.filter_congr fun server _ => by rw [isEligible, if_pos primary]
  · have none : servers.filter (fun other => !other.down && !other.backup) = [] := by
      refine List.filter_eq_nil_iff.mpr fun other member up => primary ?_
      exact List.any_eq_true.mpr ⟨other, member, up⟩
    rw [if_pos none]
    exact List.filter_congr fun server _ => by rw [isEligible, if_neg primary]

/-- The eligible servers with their positions in the list, each as often as it weighs. -/
def turns (servers : List UpstreamServer) : List (UpstreamServer × Nat) :=
  repeated (fun entry => entry.1.weight)
    (servers.zipIdx.filter fun entry => isEligible servers entry.1)

theorem weighted_eq_map_turns (servers : List UpstreamServer) :
    weighted servers = (turns servers).map Prod.fst := by
  have eligible : available servers =
      (servers.zipIdx.filter fun entry => isEligible servers entry.1).map Prod.fst := by
    rw [available_eq_filter]
    conv_lhs => rw [← List.zipIdx_map_fst 0 servers, List.filter_map]
    rw [List.zipIdx_map_fst]
    rfl
  rw [weighted_eq_repeated, eligible, repeated_map]
  rfl

/-- The balancer after some calls with one list. -/
def afterSelects (servers : List UpstreamServer) : Nat → RoundRobinBalancer
  | 0 => init
  | calls + 1 => ((afterSelects servers calls).select servers).2

/-- The position in the list of the server that a call with it returns, after some calls. -/
def position (servers : List UpstreamServer) (calls : Nat) : Option Nat :=
  ((turns servers)[(afterSelects servers calls).index]?).map Prod.snd

theorem turns_eq_nil (empty : available servers = []) : turns servers = [] := by
  have none : (turns servers).map Prod.fst = [] := by
    rw [← weighted_eq_map_turns, weighted, empty, List.flatMap_nil]
  exact List.map_eq_nil_iff.mp none

theorem mem_turns {entry : UpstreamServer × Nat} :
    entry ∈ turns servers ↔
      (servers[entry.2]? = some entry.1 ∧ isEligible servers entry.1 = true) ∧
        0 < entry.1.weight := by
  rw [turns, mem_repeated, List.mem_filter, List.mem_zipIdx_iff_getElem?]

section FixedList

variable (weights : ∀ server ∈ available servers, 1 ≤ server.weight)

include weights

/-- The length of one turn is the total weight of the eligible servers. -/
theorem turns_length :
    ((turns servers).length : Int) = ((available servers).map UpstreamServer.weight).sum := by
  rw [← repeated_length_eq_sum fun server member => le_trans Int.one_nonneg (weights server member),
    ← weighted_eq_repeated, weighted_eq_map_turns, List.length_map]

theorem turns_pos (present : available servers ≠ []) : 0 < (turns servers).length := by
  obtain ⟨server, member⟩ := List.exists_mem_of_ne_nil _ present
  have repeatedHere : server ∈ weighted servers := mem_repeated.mpr ⟨member, weights server member⟩
  rw [weighted_eq_map_turns] at repeatedHere
  obtain ⟨entry, turn, -⟩ := List.mem_map.mp repeatedHere
  exact List.length_pos_of_mem turn

/-- The index goes around with the calls. -/
theorem index_afterSelects (present : available servers ≠ []) (calls : Nat) :
    (afterSelects servers calls).index = calls % (turns servers).length := by
  have length : (weighted servers).length = (turns servers).length := by
    rw [weighted_eq_map_turns, List.length_map]
  have positive := turns_pos weights present
  induction calls with
  | zero => exact (Nat.zero_mod _).symm
  | succ calls inductionHypothesis =>
    have below := Nat.mod_lt calls positive
    rw [afterSelects, select, if_neg present, inductionHypothesis,
      List.getElem?_eq_getElem (by rwa [length])]
    dsimp only
    rw [length, Nat.mod_add_mod]

/-- The turn of a call depends on its number alone. -/
theorem turn_afterSelects (calls : Nat) :
    (turns servers)[(afterSelects servers calls).index]? =
      (turns servers)[calls % (turns servers).length]? := by
  by_cases present : available servers = []
  · rw [turns_eq_nil present]
    rfl
  · rw [index_afterSelects weights present]

/-- A call returns the server at its position. -/
theorem select_eq_position (calls : Nat) :
    ((afterSelects servers calls).select servers).1 =
      .ok ((position servers calls).bind fun place => servers[place]?) := by
  rw [position, select]
  split
  · rename_i empty
    rw [turns_eq_nil empty]
    rfl
  · rename_i present
    cases turn : (turns servers)[(afterSelects servers calls).index]? with
    | none =>
      rw [turn_afterSelects weights, List.getElem?_eq_none_iff] at turn
      exact absurd turn (Nat.not_le_of_lt (Nat.mod_lt _ (turns_pos weights present)))
    | some entry =>
      have stored := (mem_turns.mp (List.mem_of_getElem? turn)).1.1
      rw [weighted_eq_map_turns, List.getElem?_map, turn]
      exact congrArg Except.ok stored.symm

/-- In as many calls in a row as one turn is long, the position of an eligible server comes up as
often as the server weighs. -/
theorem countP_position (start : Nat) {place : Nat} {server : UpstreamServer}
    (stored : servers[place]? = some server) (member : server ∈ available servers) :
    (((List.range (turns servers).length).countP fun offset =>
      position servers (start + offset) = some place) : Int) = server.weight := by
  have weighs := weights server member
  have eligible : isEligible servers server = true := by
    rw [available_eq_filter] at member
    exact (List.mem_filter.mp member).2
  have distinct : (servers.zipIdx.filter fun entry => isEligible servers entry.1).Nodup :=
    (List.Nodup.of_map Prod.snd (by
      rw [List.zipIdx_map_snd]
      exact List.nodup_range')).filter _
  have counted : ((turns servers).countP fun entry => entry = (server, place)) =
      server.weight.toNat :=
    countP_repeated distinct (List.mem_filter.mpr
      ⟨List.mem_zipIdx_iff_getElem?.mpr stored, eligible⟩)
  have same (offset : Nat) : position servers (start + offset) = some place ↔
      (turns servers)[(start + offset) % (turns servers).length]? = some (server, place) := by
    rw [position, turn_afterSelects weights, Option.map_eq_some_iff]
    constructor
    · rintro ⟨⟨other, place⟩, turn, rfl⟩
      have storedHere := (mem_turns.mp (List.mem_of_getElem? turn)).1.1
      obtain rfl := Option.some.inj (storedHere.symm.trans stored)
      exact turn
    · exact fun turn => ⟨_, turn, rfl⟩
  simp only [same]
  rw [countP_turn, counted, Int.toNat_of_nonneg (by omega)]

/-- While a balancer is called with one list, whose eligible servers weigh at least 1 each, any calls
in a row, as many as the total weight, return every eligible server as often as it weighs, and after
as many calls everything repeats. -/
theorem select_weight_fair {total : Nat}
    (sums : (total : Int) = ((available servers).map UpstreamServer.weight).sum) :
    (∀ calls, ((afterSelects servers calls).select servers).1 =
        .ok ((position servers calls).bind fun place => servers[place]?)) ∧
      (∀ start place server, servers[place]? = some server → server ∈ available servers →
        (((List.range total).countP fun offset =>
          position servers (start + offset) = some place) : Int) = server.weight) ∧
      ∀ calls, position servers (calls + total) = position servers calls := by
  obtain rfl : total = (turns servers).length := by
    rw [← turns_length weights] at sums
    exact Int.ofNat.inj sums
  refine ⟨select_eq_position weights, fun start place server stored member =>
    countP_position weights start stored member, fun calls => ?_⟩
  rw [position, turn_afterSelects weights, Nat.add_mod_right, ← turn_afterSelects weights, position]

end FixedList

/-- Three servers, one of them down, with a total weight of 3. -/
def threeServers : List UpstreamServer :=
  [⟨"a", 80, 2, false, false⟩, ⟨"b", 80, -1, false, true⟩, ⟨"c", 80, 1, false, false⟩]

theorem select_weight_fair_three :
    ((List.range 3).countP fun offset => position threeServers (5 + offset) = some 0) = 2 :=
  Int.ofNat.inj ((@select_weight_fair threeServers (by decide) 3 rfl).2.1 5 0
    ⟨"a", 80, 2, false, false⟩ rfl (by decide))

end RoundRobinBalancer

/-! ### Residues -/

namespace IpHashBalancer

/-- The place among the servers of the one that the loop of `select` returns. -/
def walkPosition (servers : List UpstreamServer) (index : Int) : Option Nat :=
  weightedIndex UpstreamServer.weight servers index

theorem walk_eq_walkPosition (servers : List UpstreamServer) (index : Int) :
    walk servers index = (walkPosition servers index).bind fun place => servers[place]? := by
  rw [walk_eq_weightedItem, weightedItem_eq_bind, walkPosition]

/-- A residue of a positive total ends in the loop, at a server that weighs something. -/
theorem walkPosition_isSome {available : List UpstreamServer}
    (nonnegative : ∀ server ∈ available, 0 ≤ server.weight) {residue : Int} (start : 0 ≤ residue)
    (below : residue < (available.map UpstreamServer.weight).sum) :
    ∃ place server, walkPosition available residue = some place ∧
      available[place]? = some server ∧ walk available residue = some server ∧
        0 < server.weight := by
  obtain ⟨place, found⟩ := weightedIndex_isSome start below
  obtain ⟨inside, low, high⟩ := (weightedIndex_eq_some_iff nonnegative start).mp found
  have stored := List.getElem?_eq_getElem inside
  refine ⟨place, available[place], found, stored, ?_, ?_⟩
  · rw [walk_eq_walkPosition, walkPosition, found, Option.bind_some, stored]
  · rw [weightBefore_succ inside] at high
    omega

/-- The loop gives every server that is not down as many residues of the total as it weighs, and
none to a server that weighs nothing. It always returns, so that the last server is never returned
behind it. -/
theorem select_proportional (servers : List UpstreamServer)
    (nonnegative : ∀ server ∈ servers, server.down = false → 0 ≤ server.weight) {total : Int}
    (sums : total = ((upServers servers).map UpstreamServer.weight).sum) (positive : 0 < total) :
    (∀ residue, 0 ≤ residue → residue < total →
        ∃ place server, walkPosition (upServers servers) residue = some place ∧
          (upServers servers)[place]? = some server ∧
            walk (upServers servers) residue = some server ∧ 0 < server.weight) ∧
      (∀ place server, (upServers servers)[place]? = some server →
        (((Finset.Ico 0 total).filter fun residue =>
          walkPosition (upServers servers) residue = some place).card : Int) = server.weight) ∧
      ∀ {Score : Type} (packages : BalancerPackages Score) clientIp, clientIp ≠ "" →
        select packages servers clientIp =
          .ok (walk (upServers servers) (Int.fmod (packages.md5 clientIp) total)) := by
  subst sums
  have upNonnegative : ∀ server ∈ upServers servers, 0 ≤ server.weight := fun server up =>
    nonnegative server (mem_upServers.mp up).1 (mem_upServers.mp up).2
  refine ⟨fun residue start below => walkPosition_isSome upNonnegative start below,
    fun place server stored => ?_, fun packages clientIp named => ?_⟩
  · obtain ⟨inside, rfl⟩ := List.getElem?_eq_some_iff.mp stored
    exact card_owned upNonnegative inside
  · have present : upServers servers ≠ [] := by
      intro empty
      rw [empty] at positive
      exact lt_irrefl _ positive
    obtain ⟨place, server, -, -, walked, -⟩ := walkPosition_isSome upNonnegative
      (Int.fmod_nonneg_of_pos (packages.md5 clientIp) positive) (Int.fmod_lt_of_pos _ positive)
    rw [select]
    dsimp only
    rw [if_neg present, if_neg named, if_neg (ne_of_gt positive), walked]

theorem select_proportional_three :
    ((Finset.Ico 0 3).filter fun residue =>
      walkPosition (upServers RoundRobinBalancer.threeServers) residue = some 0).card = 2 :=
  Int.ofNat.inj ((@select_proportional RoundRobinBalancer.threeServers (by decide) 3 rfl
    (by decide)).2.1 0 ⟨"a", 80, 2, false, false⟩ rfl)

end IpHashBalancer

end LocalNetwork
