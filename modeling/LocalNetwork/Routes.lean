/-
This file proves which location `_match_route` of `proxy/connection.py` finds for a request.

The scan keeps the longest path so far and how long it is, and only a longer one replaces it.
So it finds the first of the longest paths that the path of the request begins with. Two
such paths of one length are the same, which is why the order of the locations matters only
where a path stands twice.
-/

import LocalNetwork.FirstLargest
import LocalNetwork.ProxyConnections

namespace LocalNetwork

/-! ### The specification -/

/-- A location whose path the path of a request begins with, the first of those whose path is
longest. -/
def LongestMatch (locations : List ProxyLocation) (path : Text) (location : ProxyLocation) :
    Prop :=
  location.path <+: path ∧ ∃ before after, locations = before ++ location :: after ∧
    (∀ other ∈ before, other.path <+: path → other.path.length < location.path.length) ∧
      ∀ other ∈ after, other.path <+: path → other.path.length ≤ location.path.length

/-- The locations whose paths the path of a request begins with. -/
def matching (locations : List ProxyLocation) (path : Text) : List ProxyLocation :=
  locations.filter fun location => location.path.isPrefixOf path

def pathLength (location : ProxyLocation) : Nat := location.path.length

variable {locations others : List ProxyLocation} {path : Text} {location : ProxyLocation}

theorem mem_matching : location ∈ matching locations path ↔
    location ∈ locations ∧ location.path <+: path := by
  rw [matching, List.mem_filter, List.isPrefixOf_iff_prefix]

theorem matching_concat (front : List ProxyLocation) (location : ProxyLocation) (path : Text) :
    matching (front ++ [location]) path =
      if location.path.isPrefixOf path then matching front path ++ [location]
      else matching front path := by
  rw [matching, List.filter_append, ← matching]
  split
  · rename_i begins
    exact congrArg _ (List.filter_cons_of_pos begins)
  · rename_i begins
    rw [List.filter_eq_nil_iff.mpr (by simpa using begins), List.append_nil]

/-! ### The scan -/

/-- The length beside the best location so far. -/
def bestLength : Option ProxyLocation → Int
  | none => -1
  | some location => pathLength location

/-- After any locations the scan holds the first of the longest that match. -/
theorem scan_eq (locations : List ProxyLocation) (path : Text) :
    locations.foldl (betterLocation path) (none, -1) =
      ((matching locations path).argmax pathLength,
        bestLength ((matching locations path).argmax pathLength)) := by
  induction locations using List.reverseRecOn with
  | nil => rfl
  | append_singleton front location inductionHypothesis =>
    rw [List.foldl_append, inductionHypothesis, List.foldl_cons, List.foldl_nil, betterLocation,
      matching_concat]
    by_cases begins : location.path.isPrefixOf path = true
    · rw [if_pos begins, List.argmax_concat]
      cases (matching front path).argmax pathLength with
      | none =>
        rw [if_pos ⟨begins, by simp only [bestLength]; omega⟩]
        rfl
      | some best =>
        have compared : bestLength (some best) < (location.path.length : Int) ↔
            pathLength best < pathLength location := Nat.cast_lt
        by_cases longer : pathLength best < pathLength location
        · rw [if_pos ⟨begins, compared.mpr longer⟩]
          simp only [if_pos longer]
          rfl
        · rw [if_neg fun better => longer (compared.mp better.2)]
          simp only [if_neg longer]
    · rw [if_neg begins, if_neg fun better => begins better.1]

theorem matchLocation_eq_argmax (locations : List ProxyLocation) (path : Text) :
    matchLocation locations path = (matching locations path).argmax pathLength := by
  rw [matchLocation, scan_eq]

/-- The first of the longest among the matching locations is the first of the longest matches. -/
theorem firstLargest_matching_iff :
    FirstLargest pathLength (matching locations path) location ↔
      LongestMatch locations path location := by
  constructor
  · intro first
    have begins := (mem_matching.mp first.mem).2
    obtain ⟨before, after, split, shorter, notLonger⟩ := first
    obtain ⟨front, back, rfl, rfl, behind⟩ := List.filter_eq_append_iff.mp split
    obtain ⟨skipped, rest, rfl, none, -, rfl⟩ := List.filter_eq_cons_iff.mp behind
    refine ⟨begins, front ++ skipped, rest, (List.append_assoc _ _ _).symm, ?_, ?_⟩
    · intro other member matchesToo
      rcases List.mem_append.mp member with inFront | inSkipped
      · exact shorter other (mem_matching.mpr ⟨inFront, matchesToo⟩)
      · exact absurd (List.isPrefixOf_iff_prefix.mpr matchesToo) (none other inSkipped)
    · exact fun other member matchesToo => notLonger other (mem_matching.mpr ⟨member, matchesToo⟩)
  · rintro ⟨begins, before, after, rfl, shorter, notLonger⟩
    refine ⟨matching before path, matching after path, ?_, ?_, ?_⟩
    · rw [matching, List.filter_append]
      exact congrArg _ (List.filter_cons_of_pos (List.isPrefixOf_iff_prefix.mpr begins))
    · intro other member
      exact shorter other (mem_matching.mp member).1 (mem_matching.mp member).2
    · intro other member
      exact notLonger other (mem_matching.mp member).1 (mem_matching.mp member).2

/-- Matching locations with paths of one length have one path. -/
theorem path_eq_of_length {first second : ProxyLocation} (one : first.path <+: path)
    (two : second.path <+: path) (same : pathLength first = pathLength second) :
    first.path = second.path :=
  (List.prefix_of_prefix_length_le one two same.le).eq_of_length same

/-- For every list of locations and every path of a request, the location found is the first of
those with the longest matching path, and there is none only if no path matches; among locations
with distinct paths it does not depend on their order. -/
theorem matchLocation_longest (locations : List ProxyLocation) (path : Text) :
    (∀ location, matchLocation locations path = some location ↔
        LongestMatch locations path location) ∧
      (matchLocation locations path = none ↔
        ∀ location ∈ locations, ¬ location.path <+: path) ∧
      ∀ others, locations.Perm others →
        (locations.map fun location => location.path).Nodup →
          matchLocation others path = matchLocation locations path := by
  refine ⟨fun location => ?_, ?_, fun others perm distinct => ?_⟩
  · rw [matchLocation_eq_argmax, argmax_eq_some_iff_firstLargest, firstLargest_matching_iff]
  · rw [matchLocation_eq_argmax, List.argmax_eq_none, List.eq_nil_iff_forall_not_mem]
    simp only [mem_matching, not_and]
  · rw [matchLocation_eq_argmax, matchLocation_eq_argmax]
    refine (argmax_perm (perm.filter _) fun first one second two same => ?_).symm
    obtain ⟨member, begins⟩ := mem_matching.mp one
    obtain ⟨otherMember, otherBegins⟩ := mem_matching.mp two
    exact List.inj_on_of_nodup_map distinct member otherMember
      (path_eq_of_length begins otherBegins same)

/-- A location for a path. -/
def exampleLocation (path : String) : ProxyLocation :=
  ⟨⟨path.toList, [], 300⟩, "backend", true⟩

/-- Two locations in either order: the longer path is found. -/
theorem matchLocation_longest_api :
    matchLocation [exampleLocation "/api", exampleLocation "/"] "/api/v1".toList =
      matchLocation [exampleLocation "/", exampleLocation "/api"] "/api/v1".toList :=
  (matchLocation_longest [exampleLocation "/", exampleLocation "/api"] "/api/v1".toList).2.2
    _ (List.Perm.swap _ _ _) (by decide)

end LocalNetwork
