/-
This file is about the access rules of the proxy. The rules are tried in their order, and the
first network that contains the address of the client decides.

The word `all` is no network: a catch-all rule raises inside the loop and is passed over, as
any rule that cannot be parsed. The file compares the check with the first match that the
documentation promises, and finds the lists of rules and the addresses on which they agree.
-/

import LocalNetwork.IpAddress

namespace LocalNetwork

inductive AccessAction where
  | allow
  | deny
  deriving DecidableEq

/-- A rule: its action and the text of its network. -/
structure AccessRule where
  action : AccessAction
  network : Text

structure AccessControl where
  rules : List AccessRule

namespace AccessControl

def new : AccessControl := ⟨[]⟩

def allow (control : AccessControl) (network : Text) : AccessControl :=
  ⟨control.rules ++ [⟨.allow, network⟩]⟩

def deny (control : AccessControl) (network : Text) : AccessControl :=
  ⟨control.rules ++ [⟨.deny, network⟩]⟩

/-- The loop of `check`: a rule whose network is none is passed over. -/
def checkRules (ip : IpAddress) : List AccessRule → Bool
  | [] => true
  | ⟨action, networkText⟩ :: rules =>
    match ipNetwork networkText with
    | none => checkRules ip rules
    | some network => if network.contains ip then action = .allow else checkRules ip rules

/-- `check`: without rules, and for a text that is no address, access is allowed. -/
def check (control : AccessControl) (clientIp : Text) : Bool :=
  if control.rules = [] then true
  else
    match ipAddress clientIp with
    | none => true
    | some ip => checkRules ip control.rules

/-- Add rules, each with its own call. -/
def add (control : AccessControl) (rules : List AccessRule) : AccessControl :=
  rules.foldl
    (fun control rule =>
      match rule.action with
      | .allow => control.allow rule.network
      | .deny => control.deny rule.network)
    control

end AccessControl

/-! ### What the documentation promises -/

/-- The catch-all word. -/
def allWord : Text := "all".toList

/-- The network of a rule holds an address. -/
def AccessRule.holds (rule : AccessRule) (ip : IpAddress) : Bool :=
  match ipNetwork rule.network with
  | none => false
  | some network => network.contains ip

/-- A rule is about an address: its network holds it, or it is a catch-all rule. -/
def AccessRule.covers (rule : AccessRule) (ip : IpAddress) : Bool :=
  decide (rule.network = allWord) || rule.holds ip

/-- The action of the first rule with a property; without one, access is allowed. -/
def firstAction (property : AccessRule → Bool) (rules : List AccessRule) : AccessAction :=
  ((rules.find? property).map AccessRule.action).getD .allow

/-- The first rule that is about the address, if it is a catch-all rule, has the action that is
reached without it. -/
def CatchAllAgrees (ip : IpAddress) (rules : List AccessRule) : Prop :=
  ∀ before action after, rules = before ++ ⟨action, allWord⟩ :: after →
    (∀ rule ∈ before, rule.covers ip = false) →
      action = firstAction (fun rule => rule.holds ip) after

/-! ### The loop -/

variable {ip : IpAddress} {rules : List AccessRule}

theorem firstAction_of_true {property : AccessRule → Bool} {rule : AccessRule}
    (here : property rule = true) (rules : List AccessRule) :
    firstAction property (rule :: rules) = rule.action := by
  rw [firstAction, List.find?_cons_of_pos here]
  rfl

theorem firstAction_of_false {property : AccessRule → Bool} {rule : AccessRule}
    (elsewhere : property rule = false) (rules : List AccessRule) :
    firstAction property (rule :: rules) = firstAction property rules := by
  rw [firstAction, List.find?_cons_of_neg (by rw [elsewhere]; exact Bool.false_ne_true)]
  rfl

/-- The loop finds the first rule whose network holds the address. -/
theorem checkRules_eq (ip : IpAddress) (rules : List AccessRule) :
    AccessControl.checkRules ip rules =
      decide (firstAction (fun rule => rule.holds ip) rules = .allow) := by
  induction rules with
  | nil => rfl
  | cons rule rules inductionHypothesis =>
    obtain ⟨action, networkText⟩ := rule
    have holds : AccessRule.holds ⟨action, networkText⟩ ip =
        match ipNetwork networkText with
        | none => false
        | some network => network.contains ip := rfl
    rw [AccessControl.checkRules]
    cases found : ipNetwork networkText with
    | none =>
      rw [found] at holds
      rw [firstAction_of_false holds]
      exact inductionHypothesis
    | some network =>
      rw [found] at holds
      dsimp only at holds ⊢
      cases inside : network.contains ip with
      | true =>
        rw [if_pos rfl, firstAction_of_true (holds.trans inside)]
      | false =>
        rw [if_neg Bool.false_ne_true, firstAction_of_false (holds.trans inside)]
        exact inductionHypothesis

theorem rules_add (control : AccessControl) (rules : List AccessRule) :
    (control.add rules).rules = control.rules ++ rules := by
  induction rules generalizing control with
  | nil => exact (List.append_nil _).symm
  | cons rule rules inductionHypothesis =>
    obtain ⟨action, network⟩ := rule
    rw [AccessControl.add, List.foldl_cons]
    cases action with
    | allow =>
      exact (inductionHypothesis (control.allow network)).trans (List.append_assoc _ [_] rules)
    | deny =>
      exact (inductionHypothesis (control.deny network)).trans (List.append_assoc _ [_] rules)

/-- For a client with an address the check is the loop. -/
theorem check_add {clientIp : Text} (valid : ipAddress clientIp = some ip)
    (rules : List AccessRule) :
    (AccessControl.new.add rules).check clientIp =
      decide (firstAction (fun rule => rule.holds ip) rules = .allow) := by
  have added : (AccessControl.new.add rules).rules = rules := rules_add .new rules
  rw [AccessControl.check, added, valid, ← checkRules_eq]
  split
  · rename_i empty
    rw [empty]
    rfl
  · rfl

/-! ### The first match -/

/-- The catch-all word is no network. -/
theorem holds_allWord (action : AccessAction) (ip : IpAddress) :
    AccessRule.holds ⟨action, allWord⟩ ip = false := by
  have none : ipNetwork allWord = none := by decide
  rw [AccessRule.holds, none]

/-- A list that begins with a rule about the address: the catch-all rules agree unless that rule is
one and has another action than what follows. -/
theorem catchAllAgrees_cons_of_covers {rule : AccessRule} (covers : rule.covers ip = true)
    (rules : List AccessRule) :
    CatchAllAgrees ip (rule :: rules) ↔
      (rule.network = allWord → rule.action = firstAction (fun rule => rule.holds ip) rules) := by
  constructor
  · rintro agrees catchAll
    obtain ⟨action, network⟩ := rule
    obtain rfl : network = allWord := catchAll
    exact agrees [] action rules rfl fun _ member => absurd member List.not_mem_nil
  · intro agrees before action after split uncovered
    cases before with
    | nil =>
      obtain ⟨rfl, rfl⟩ := List.cons.inj split
      exact agrees rfl
    | cons first before =>
      obtain ⟨rfl, -⟩ := List.cons.inj split
      exact absurd (covers.symm.trans (uncovered _ List.mem_cons_self)) Bool.noConfusion

/-- A rule that is not about the address does not matter. -/
theorem catchAllAgrees_cons_of_not_covers {rule : AccessRule} (covers : rule.covers ip = false)
    (rules : List AccessRule) : CatchAllAgrees ip (rule :: rules) ↔ CatchAllAgrees ip rules := by
  have other : rule.network ≠ allWord := of_decide_eq_false (Bool.or_eq_false_iff.mp covers).1
  constructor
  · intro agrees before action after split uncovered
    exact agrees (rule :: before) action after (congrArg (rule :: ·) split)
      (List.forall_mem_cons.mpr ⟨covers, uncovered⟩)
  · intro agrees before action after split uncovered
    cases before with
    | nil =>
      obtain ⟨rfl, -⟩ := List.cons.inj split
      exact absurd rfl other
    | cons first before =>
      obtain ⟨-, rest⟩ := List.cons.inj split
      exact agrees before action after rest fun rule member =>
        uncovered rule (List.mem_cons_of_mem _ member)

/-- The first network that holds the address decides as the first match does, if and only if the
catch-all rules agree with it. -/
theorem firstAction_holds_eq_iff (ip : IpAddress) (rules : List AccessRule) :
    firstAction (fun rule => rule.holds ip) rules = firstAction (fun rule => rule.covers ip) rules ↔
      CatchAllAgrees ip rules := by
  induction rules with
  | nil =>
    refine iff_of_true rfl fun before action after split => ?_
    exact absurd split.symm (List.append_ne_nil_of_right_ne_nil _ (List.cons_ne_nil _ _))
  | cons rule rules inductionHypothesis =>
    cases covers : rule.covers ip with
    | true =>
      have first : firstAction (fun rule => rule.covers ip) (rule :: rules) = rule.action :=
        firstAction_of_true covers rules
      rw [first, catchAllAgrees_cons_of_covers covers]
      by_cases catchAll : rule.network = allWord
      · -- The first match is this rule, and the loop goes on behind it.
        obtain ⟨action, network⟩ := rule
        obtain rfl : network = allWord := catchAll
        rw [firstAction_of_false (holds_allWord action ip), forall_prop_of_true rfl, eq_comm]
      · -- The network of this rule holds the address.
        have holds : rule.holds ip = true := by
          rw [AccessRule.covers, decide_eq_false catchAll, Bool.false_or] at covers
          exact covers
        rw [firstAction_of_true holds]
        exact iff_of_true rfl fun same => absurd same catchAll
    | false =>
      have elsewhere : rule.holds ip = false := (Bool.or_eq_false_iff.mp covers).2
      rw [firstAction_of_false elsewhere, firstAction_of_false covers,
        catchAllAgrees_cons_of_not_covers covers, inductionHypothesis]

/-- The check returns the action of the first rule that is about the address if and only if the
catch-all rules agree with the networks. -/
theorem check_firstMatch_iff {clientIp : Text} (valid : ipAddress clientIp = some ip)
    (rules : List AccessRule) :
    (AccessControl.new.add rules).check clientIp =
        decide (firstAction (fun rule => rule.covers ip) rules = .allow) ↔
      CatchAllAgrees ip rules := by
  rw [check_add valid, ← firstAction_holds_eq_iff]
  cases firstAction (fun rule => rule.holds ip) rules <;>
    cases firstAction (fun rule => rule.covers ip) rules <;> decide

/-! ### A catch-all rule -/

/-- The rules of the example configuration. -/
def configuredRules : List AccessRule :=
  [⟨.allow, "10.0.0.0/8".toList⟩, ⟨.allow, "192.168.0.0/16".toList⟩, ⟨.deny, allWord⟩]

/-- For an address of the first network the catch-all rule does not matter. -/
theorem check_firstMatch_iff_inside : CatchAllAgrees (.v4 0x0A010203) configuredRules := by
  have valid : ipAddress "10.1.2.3".toList = some (.v4 0x0A010203) := by decide
  exact (check_firstMatch_iff valid configuredRules).mp (by decide)

/-- An address outside of both networks is to be denied, and it is allowed. -/
theorem check_counterexample :
    ipAddress "203.0.113.5".toList = some (.v4 0xCB007105) ∧
      firstAction (fun rule => rule.covers (.v4 0xCB007105)) configuredRules = .deny ∧
        (AccessControl.new.add configuredRules).check "203.0.113.5".toList = true := by
  decide

end LocalNetwork
