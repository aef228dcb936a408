/-
This file proves which upstream lists make the balancers keep the rule for backup servers.
A backup is only used when all other servers are down; only `round_robin` looks at the
attribute. The other three filter out the servers that are down and choose among the rest,
so that a backup beside another server that is up takes traffic.

Each of the three returns a server that is up whenever there is one. If no backup is up
beside another server, that is all the rule asks. If there is such a backup, it owns a
position of the total weight, and `random` returns it for the draws that fall there.
-/

import LocalNetwork.LoadBalancer
import Mathlib.Algebra.Order.BigOperators.Group.List

namespace LocalNetwork

/-- The rule for servers that are down and for backups: the result is a server of the list that is
not down, a backup only if no other server is up, and none exactly when all servers are down. -/
def Obeys (servers : List UpstreamServer) (result : Selection) : Prop :=
  ∃ chosen, result = .ok chosen ∧
    (∀ server, chosen = some server → server ∈ servers ∧ server.down = false ∧
      (server.backup = true → ¬ ∃ other ∈ servers, other.backup = false ∧ other.down = false)) ∧
    (chosen = none ↔ ∀ server ∈ servers, server.down = true)

/-- A backup is up, and so is a server that is none. -/
def BackupBesidePrimary (servers : List UpstreamServer) : Prop :=
  (∃ server ∈ servers, server.backup = true ∧ server.down = false) ∧
    ∃ server ∈ servers, server.backup = false ∧ server.down = false

instance (servers : List UpstreamServer) : Decidable (BackupBesidePrimary servers) :=
  inferInstanceAs (Decidable ((∃ server ∈ servers, server.backup = true ∧ server.down = false) ∧
    ∃ server ∈ servers, server.backup = false ∧ server.down = false))

variable {Score : Type} {packages : BalancerPackages Score}
  {servers : List UpstreamServer} {result : Selection}

theorem mem_upServers {server : UpstreamServer} :
    server ∈ upServers servers ↔ server ∈ servers ∧ server.down = false := by
  rw [upServers, List.mem_filter, Bool.not_eq_true']

theorem upServers_eq_nil : upServers servers = [] ↔ ∀ server ∈ servers, server.down = true := by
  rw [upServers, List.filter_eq_nil_iff]
  simp only [Bool.not_eq_true', Bool.not_eq_false]

/-! ### The balancers that ignore the attribute -/

/-- The result is one of the servers that are up, or none if all are down. -/
def FromUp (servers : List UpstreamServer) (result : Selection) : Prop :=
  (upServers servers = [] ∧ result = .ok none) ∨
    ∃ server ∈ upServers servers, result = .ok (some server)

theorem FromUp.obeys (fromUp : FromUp servers result) (separate : ¬ BackupBesidePrimary servers) :
    Obeys servers result := by
  rcases fromUp with ⟨empty, rfl⟩ | ⟨server, up, rfl⟩
  · refine ⟨none, rfl, ?_, fun _ => upServers_eq_nil.mp empty, fun _ => rfl⟩
    intro server chosen
    cases chosen
  · obtain ⟨member, notDown⟩ := mem_upServers.mp up
    refine ⟨some server, rfl, ?_, ?_, ?_⟩
    · intro chosen same
      obtain rfl := Option.some.inj same
      exact ⟨member, notDown, fun backup primary =>
        separate ⟨⟨server, member, backup, notDown⟩, primary⟩⟩
    · intro missing
      cases missing
    · intro down
      exact absurd ((down server member).symm.trans notDown) (by decide)

theorem weight_nonneg (weights : ∀ server ∈ servers, 1 ≤ server.weight) :
    ∀ server ∈ upServers servers, 0 ≤ server.weight :=
  fun server up => le_trans Int.one_nonneg (weights server (mem_upServers.mp up).1)

theorem sum_weight_pos (weights : ∀ server ∈ servers, 1 ≤ server.weight)
    (present : upServers servers ≠ []) :
    0 < ((upServers servers).map UpstreamServer.weight).sum := by
  obtain ⟨server, up⟩ := List.exists_mem_of_ne_nil _ present
  refine lt_of_lt_of_le (weights server (mem_upServers.mp up).1)
    (List.single_le_sum (fun weight member => ?_) _ (List.mem_map_of_mem up))
  obtain ⟨other, otherUp, rfl⟩ := List.mem_map.mp member
  exact weight_nonneg weights other otherUp

theorem leastConn_fromUp [LinearOrder Score] (balancer : LeastConnBalancer)
    (servers : List UpstreamServer) :
    FromUp servers (balancer.select packages servers) := by
  cases least : (upServers servers).argmin (balancer.score packages) with
  | none => exact .inl ⟨List.argmin_eq_none.mp least, congrArg Except.ok least⟩
  | some server => exact .inr ⟨server, List.argmin_mem least, congrArg Except.ok least⟩

/-- The loop of `ip_hash` finds the owner of the index. -/
theorem walk_eq_weightedItem (servers : List UpstreamServer) (index : Int) :
    IpHashBalancer.walk servers index = weightedItem UpstreamServer.weight servers index := by
  induction servers generalizing index with
  | nil => rfl
  | cons server rest inductionHypothesis =>
    rw [IpHashBalancer.walk, weightedItem, inductionHypothesis]

theorem elementAt_zero (present : servers ≠ []) :
    ∃ server ∈ servers, elementAt servers 0 = .ok (some server) := by
  cases servers with
  | nil => exact absurd rfl present
  | cons server rest => exact ⟨server, List.mem_cons_self, rfl⟩

theorem ipHash_fromUp (weights : ∀ server ∈ servers, 1 ≤ server.weight) (clientIp : String) :
    FromUp servers (IpHashBalancer.select packages servers clientIp) := by
  unfold IpHashBalancer.select
  simp only
  split
  · rename_i empty
    exact .inl ⟨empty, rfl⟩
  · rename_i present
    have positive := sum_weight_pos weights present
    split
    · exact .inr (elementAt_zero present)
    · rw [if_neg (ne_of_gt positive), walk_eq_weightedItem]
      obtain ⟨server, owns⟩ := weightedItem_isSome
        (Int.fmod_nonneg_of_pos (packages.md5 clientIp) positive) (Int.fmod_lt_of_pos _ positive)
      rw [owns]
      exact .inr ⟨server, weightedItem_mem owns, rfl⟩

/-- A draw that falls on a position chooses the owner of the position. -/
theorem choices_eq {available : List UpstreamServer} {draw : UnitDraw} {server : UpstreamServer}
    (nonnegative : ∀ server ∈ available, 0 ≤ server.weight)
    (owns : weightedItem UpstreamServer.weight available
      ⌊draw.value * ((available.map UpstreamServer.weight).sum : Int)⌋ = some server)
    (positive : 0 < (available.map UpstreamServer.weight).sum) :
    RandomBalancer.choices available draw = .ok (some server) := by
  have total : (0 : ℚ) < ((available.map UpstreamServer.weight).sum : Int) :=
    Int.cast_pos.mpr positive
  have found := getElem?_bisect nonnegative (mul_nonneg draw.nonnegative total.le)
    (mul_lt_of_lt_one_left total draw.belowOne)
  rw [RandomBalancer.choices, if_neg (not_le.mpr positive), elementAt, found, owns]

theorem random_fromUp (weights : ∀ server ∈ servers, 1 ≤ server.weight) (draw : UnitDraw) :
    FromUp servers (RandomBalancer.select servers draw) := by
  rw [RandomBalancer.select]
  split
  · rename_i empty
    exact .inl ⟨empty, rfl⟩
  · rename_i present
    have positive := sum_weight_pos weights present
    have total : (0 : ℚ) < (((upServers servers).map UpstreamServer.weight).sum : Int) :=
      Int.cast_pos.mpr positive
    obtain ⟨server, owns⟩ := weightedItem_isSome
      (Int.floor_nonneg.mpr (mul_nonneg draw.nonnegative total.le))
      (Int.floor_lt.mpr (mul_lt_of_lt_one_left total draw.belowOne))
    exact .inr ⟨server, weightedItem_mem owns,
      choices_eq (weight_nonneg weights) owns positive⟩

/-- Every server that is up is drawn at some point of the unit interval. -/
theorem random_reaches (weights : ∀ server ∈ servers, 1 ≤ server.weight) {server : UpstreamServer}
    (up : server ∈ upServers servers) :
    ∃ draw, RandomBalancer.select servers draw = .ok (some server) := by
  have nonnegative := weight_nonneg weights
  obtain ⟨position, start, below, owns⟩ :=
    exists_position nonnegative up (weights server (mem_upServers.mp up).1)
  have positive := lt_of_le_of_lt start below
  have total : (0 : ℚ) < (((upServers servers).map UpstreamServer.weight).sum : Int) :=
    Int.cast_pos.mpr positive
  refine ⟨⟨(position : ℚ) / (((upServers servers).map UpstreamServer.weight).sum : Int),
    div_nonneg (Int.cast_nonneg start) total.le,
    (div_lt_one total).mpr (Int.cast_lt.mpr below)⟩, ?_⟩
  rw [RandomBalancer.select, if_neg (List.ne_nil_of_mem up)]
  refine choices_eq nonnegative ?_ positive
  rw [div_mul_cancel₀ _ total.ne', Int.floor_intCast]
  exact owns

/-! ### Round-robin -/

/-- The index of a round-robin balancer falls into the weighted list, unless that is empty. -/
def RoundRobinBalancer.InRange (servers : List UpstreamServer) (balancer : RoundRobinBalancer) :
    Prop :=
  RoundRobinBalancer.available servers = [] ∨
    balancer.index < (RoundRobinBalancer.weighted servers).length

theorem mem_available {server : UpstreamServer}
    (member : server ∈ RoundRobinBalancer.available servers) :
    server ∈ servers ∧ server.down = false ∧ (server.backup = true →
      ¬ ∃ other ∈ servers, other.backup = false ∧ other.down = false) := by
  rw [RoundRobinBalancer.available] at member
  split at member
  · rename_i noPrimary
    obtain ⟨stored, attributes⟩ := List.mem_filter.mp member
    rw [Bool.and_eq_true, Bool.not_eq_true'] at attributes
    refine ⟨stored, attributes.2, fun _ ⟨other, otherStored, primary, notDown⟩ => ?_⟩
    refine List.filter_eq_nil_iff.mp noPrimary other otherStored ?_
    rw [primary, notDown]
    rfl
  · obtain ⟨stored, attributes⟩ := List.mem_filter.mp member
    rw [Bool.and_eq_true, Bool.not_eq_true', Bool.not_eq_true'] at attributes
    refine ⟨stored, attributes.1, fun backup => ?_⟩
    exact absurd (attributes.2.symm.trans backup) (by decide)

theorem available_eq_nil : RoundRobinBalancer.available servers = [] ↔
    ∀ server ∈ servers, server.down = true := by
  constructor
  · intro empty server member
    by_contra up
    have notDown := Bool.eq_false_iff.mpr up
    rw [RoundRobinBalancer.available] at empty
    split at empty
    · rename_i noPrimary
      have notPrimary := List.filter_eq_nil_iff.mp noPrimary server member
      have notBackup := List.filter_eq_nil_iff.mp empty server member
      rw [notDown] at notPrimary notBackup
      cases backup : server.backup with
      | false => exact notPrimary (by rw [backup]; rfl)
      | true => exact notBackup (by rw [backup]; rfl)
    · rename_i primary
      exact primary empty
  · intro down
    refine List.eq_nil_iff_forall_not_mem.mpr fun server member => ?_
    obtain ⟨stored, notDown, -⟩ := mem_available member
    exact absurd ((down server stored).symm.trans notDown) (by decide)

/-- A selection from a list keeps the rule and leaves the index in range for the same list. -/
theorem roundRobin_select {balancer : RoundRobinBalancer} (inRange : balancer.InRange servers) :
    Obeys servers (balancer.select servers).1 ∧ (balancer.select servers).2.InRange servers := by
  rw [RoundRobinBalancer.select]
  split
  · rename_i empty
    refine ⟨⟨none, rfl, ?_, fun _ => available_eq_nil.mp empty, fun _ => rfl⟩, .inl empty⟩
    intro server chosen
    cases chosen
  · rename_i present
    have below := inRange.resolve_left present
    rw [List.getElem?_eq_getElem below]
    refine ⟨⟨_, rfl, ?_, ?_, ?_⟩, .inr (Nat.mod_lt _ (Nat.zero_lt_of_lt below))⟩
    · intro server chosen
      obtain rfl := Option.some.inj chosen
      obtain ⟨owner, member, repeated⟩ := List.mem_flatMap.mp (List.getElem_mem below)
      rw [List.eq_of_mem_replicate repeated]
      exact mem_available member
    · intro missing
      cases missing
    · exact fun down => absurd (available_eq_nil.mpr down) present

/-- A fresh balancer is in range for servers with weights. -/
theorem roundRobin_init (weights : ∀ server ∈ servers, 1 ≤ server.weight) :
    RoundRobinBalancer.init.InRange servers := by
  by_cases empty : RoundRobinBalancer.available servers = []
  · exact .inl empty
  · obtain ⟨server, member⟩ := List.exists_mem_of_ne_nil _ empty
    have repeated : server ∈ RoundRobinBalancer.weighted servers := by
      refine List.mem_flatMap.mpr ⟨server, member, List.mem_replicate.mpr ⟨?_, rfl⟩⟩
      have weighs := weights server (mem_available member).1
      omega
    exact .inr (List.length_pos_of_mem repeated)

/-! ### All balancers -/

namespace LoadBalancer

/-- The state of a balancer fits a list of servers. -/
def InRange (servers : List UpstreamServer) : LoadBalancer → Prop
  | .roundRobin balancer => balancer.InRange servers
  | _ => True

theorem inRange_create (weights : ∀ server ∈ servers, 1 ≤ server.weight) {algorithm : String}
    {balancer : LoadBalancer} (created : createBalancer algorithm = .ok balancer) :
    balancer.InRange servers := by
  rcases createBalancer_cases created with rfl | rfl | rfl | rfl
  · exact roundRobin_init weights
  all_goals exact trivial

variable [LinearOrder Score] {balancer : LoadBalancer}

theorem inRange_select (inRange : balancer.InRange servers) (clientIp : String)
    (draw : UnitDraw) : (balancer.select packages servers clientIp draw).2.InRange servers := by
  cases balancer with
  | roundRobin state => exact (roundRobin_select inRange).2
  | leastConn | ipHash | random => exact trivial

theorem inRange_afterSelects (inRange : balancer.InRange servers)
    (history : List (String × UnitDraw)) :
    (balancer.afterSelects packages servers history).InRange servers := by
  induction history generalizing balancer with
  | nil => exact inRange
  | cons first rest inductionHypothesis =>
    exact inductionHypothesis (inRange_select inRange first.1 first.2)

/-- Without a backup that is up beside another server, every balancer keeps the rule. -/
theorem obeys_select (weights : ∀ server ∈ servers, 1 ≤ server.weight)
    (separate : ¬ BackupBesidePrimary servers) (inRange : balancer.InRange servers)
    (clientIp : String) (draw : UnitDraw) :
    Obeys servers (balancer.select packages servers clientIp draw).1 := by
  cases balancer with
  | roundRobin state => exact (roundRobin_select inRange).1
  | leastConn state => exact (leastConn_fromUp state servers).obeys separate
  | ipHash => exact (ipHash_fromUp weights clientIp).obeys separate
  | random => exact (random_fromUp weights draw).obeys separate

end LoadBalancer

/-- With a backup up beside another server, `random` returns the backup for some draw. -/
theorem random_breaks (weights : ∀ server ∈ servers, 1 ≤ server.weight)
    (beside : BackupBesidePrimary servers) :
    ∃ draw, ¬ Obeys servers (RandomBalancer.select servers draw) := by
  obtain ⟨⟨server, member, backup, notDown⟩, primary⟩ := beside
  obtain ⟨draw, selected⟩ :=
    random_reaches weights (mem_upServers.mpr ⟨member, notDown⟩)
  refine ⟨draw, fun ⟨chosen, same, rule, _⟩ => ?_⟩
  obtain rfl := Except.ok.inj (selected.symm.trans same)
  exact (rule server rfl).2.2 backup primary

/-- The four balancers keep the rule for servers that are down and for backups, for all clients,
draws and earlier selections from the list, if and only if the list has no backup that is up beside
another server that is up. -/
theorem balancers_obey_iff [LinearOrder Score] (packages : BalancerPackages Score)
    (servers : List UpstreamServer) (weights : ∀ server ∈ servers, 1 ≤ server.weight) :
    (∀ algorithm balancer history clientIp draw, createBalancer algorithm = .ok balancer →
      Obeys servers ((balancer.afterSelects packages servers history).select packages servers
        clientIp draw).1) ↔ ¬ BackupBesidePrimary servers := by
  constructor
  · intro always beside
    obtain ⟨draw, breaks⟩ := random_breaks weights beside
    exact breaks (always "random" .random [] "" draw rfl)
  · intro separate algorithm balancer history clientIp draw created
    exact LoadBalancer.obeys_select weights separate
      (LoadBalancer.inRange_afterSelects (LoadBalancer.inRange_create weights created) history)
      clientIp draw

/-- A disabled backup and a server with twice its weight. -/
def disabledBackup : List UpstreamServer := [⟨"a", 80, 1, true, true⟩, ⟨"b", 80, 2, false, false⟩]

theorem balancers_obey_iff_disabledBackup :
    ¬ BackupBesidePrimary disabledBackup ∧
      Obeys disabledBackup (((LoadBalancer.leastConn .init).afterSelects exactRatios disabledBackup
        [("10.0.0.1", halfDraw)]).select exactRatios disabledBackup "10.0.0.2" halfDraw).1 :=
  ⟨by decide, (balancers_obey_iff exactRatios disabledBackup (by decide)).mpr (by decide)
    "least_conn" (.leastConn .init) [("10.0.0.1", halfDraw)] "10.0.0.2" halfDraw rfl⟩

/-- A backup in front of a server that is up: `least_conn` returns the backup. -/
theorem backup_takes_traffic :
    createBalancer "least_conn" = .ok (.leastConn .init) ∧
      ¬ Obeys [⟨"a", 80, 1, true, false⟩, ⟨"b", 80, 1, false, false⟩]
        ((LoadBalancer.leastConn .init).select exactRatios
          [⟨"a", 80, 1, true, false⟩, ⟨"b", 80, 1, false, false⟩] "10.0.0.1" halfDraw).1 := by
  refine ⟨rfl, fun ⟨chosen, selected, rule, _⟩ => ?_⟩
  have least : (LeastConnBalancer.init.select exactRatios
      [⟨"a", 80, 1, true, false⟩, ⟨"b", 80, 1, false, false⟩]) =
        .ok (some ⟨"a", 80, 1, true, false⟩) := by
    decide +kernel
  obtain rfl := Except.ok.inj (least.symm.trans selected)
  exact (rule _ rfl).2.2 rfl ⟨_, List.mem_cons_of_mem _ List.mem_cons_self, rfl, rfl⟩

end LocalNetwork
