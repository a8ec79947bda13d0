import TurboP2P.Fabric.Calls
import TurboP2P.Lib.Selection

open Codec

namespace turbop2p.mesh_multi_network

def Route.matches (route : Route) (destination : UInt32) : Bool :=
  prefix_contains route.destination_network route.prefix_length destination

/-- The binding of the next hop of a route, if a packet can take the route at
all: the next hop is another node that is bound, active and not expired
and has the role that the route requires. -/
def gateway_binding (fabric : Fabric) (network : Network) (destination : UInt32) (now_unix_s : UInt64) (route : Route) :
    Option Binding :=
  if route.matches destination = false ∨ route.next_hop_node_id = fabric.local_node_id then none
  else
    (find_binding fabric network.uid (some route.next_hop_node_id) 0).filter fun binding =>
      binding.active ∧ now_unix_s ≤ binding.not_after_unix_s ∧ binding.roles &&& route_required_role route ≠ 0

/-- The order of the routes among which `route_is_better` chooses. -/
def route_before (candidate current : Route) : Bool := route_is_better candidate (some current)

theorem route_is_better_eq_all {β : Type} (candidate : Route) (best : Option (Route × β)) :
    route_is_better candidate (best.map Prod.fst) = best.all fun current => route_before candidate current.1 := by
  cases best <;> rfl

/-- `route_is_better` puts the longer mask first, then the lower metric and
then the smaller node. -/
theorem route_before_iff {candidate current : Route} :
    route_before candidate current = true ↔
      current.prefix_length < candidate.prefix_length ∨ candidate.prefix_length = current.prefix_length ∧
        (candidate.metric < current.metric ∨ candidate.metric = current.metric ∧
          candidate.next_hop_node_id.toList < current.next_hop_node_id.toList) := by
  unfold route_before route_is_better
  by_cases hlength : candidate.prefix_length = current.prefix_length
  · by_cases hmetric : candidate.metric = current.metric
    · simp [hlength, hmetric]
    · simp [hlength, hmetric]
  · simp [hlength]

theorem route_before_irrefl (route : Route) : route_before route route = false := by
  rw [Bool.eq_false_iff, ne_eq, route_before_iff]
  simp

theorem route_before_trans (first second third : Route) (hleft : route_before first second = true)
    (hright : route_before second third = true) : route_before first third = true := by
  rw [route_before_iff] at hleft hright ⊢
  rcases hleft with hleft | ⟨hlength, hleft⟩
  · rcases hright with hright | ⟨hlength', -⟩
    · exact .inl (UInt8.lt_trans hright hleft)
    · exact .inl (hlength' ▸ hleft)
  · rcases hright with hright | ⟨hlength', hright⟩
    · exact .inl (hlength ▸ hright)
    · refine .inr ⟨hlength.trans hlength', ?_⟩
      rcases hleft with hleft | ⟨hmetric, hleft⟩
      · rcases hright with hright | ⟨hmetric', -⟩
        · exact .inl (UInt16.lt_trans hleft hright)
        · exact .inl (hmetric' ▸ hleft)
      · rcases hright with hright | ⟨hmetric', hright⟩
        · exact .inl (hmetric ▸ hright)
        · exact .inr ⟨hmetric.trans hmetric', List.lt_trans hleft hright⟩

/-- A turn of the loop of `resolve_gateway` is a turn of the selection. -/
theorem resolve_route_best (fabric : Fabric) (network : Network) (destination : UInt32) (now_unix_s : UInt64)
    (seen : Resolution) (route : Route) :
    (resolve_route fabric network destination now_unix_s seen route).best =
      Selection.turn (gateway_binding fabric network destination now_unix_s) route_before seen.best route := by
  unfold resolve_route Selection.turn gateway_binding Route.matches
  by_cases hmatches : prefix_contains route.destination_network route.prefix_length destination = false
  · rw [if_pos hmatches, if_pos (.inl hmatches)]
  rw [if_neg hmatches]
  by_cases hlocal : route.next_hop_node_id = fabric.local_node_id
  · rw [if_pos hlocal, if_pos (.inr hlocal)]
  rw [if_neg hlocal, if_neg (not_or.mpr ⟨hmatches, hlocal⟩)]
  cases hfind : find_binding fabric network.uid (some route.next_hop_node_id) 0 with
  | none => rfl
  | some binding =>
    by_cases hidle : binding.active = false ∨ now_unix_s > binding.not_after_unix_s
    · have hdropped : ¬(binding.active = true ∧ now_unix_s ≤ binding.not_after_unix_s ∧
          binding.roles &&& route_required_role route ≠ 0) := by
        rintro ⟨hactive, hcurrent, -⟩
        rcases hidle with hidle | hidle
        · simp [hidle] at hactive
        · exact UInt64.not_lt.mpr hcurrent hidle
      simp [hidle, Option.filter, hdropped]
    · obtain ⟨hactive, hcurrent⟩ := not_or.mp hidle
      rw [Bool.not_eq_false] at hactive
      rw [gt_iff_lt, UInt64.not_lt] at hcurrent
      by_cases hrole : binding.roles &&& route_required_role route = 0
      · simp [hidle, hrole, Option.filter]
      · have hkept : (some binding).filter (fun binding => decide (binding.active = true ∧
            now_unix_s ≤ binding.not_after_unix_s ∧ binding.roles &&& route_required_role route ≠ 0)) = some binding :=
          Option.filter_eq_some_iff.mpr ⟨rfl, decide_eq_true ⟨hactive, hcurrent, hrole⟩⟩
        rw [hkept]
        dsimp only
        rw [if_neg hidle, if_neg hrole, route_is_better_eq_all]
        split <;> rfl

/-- The loop of `resolve_gateway` selects the best usable route. -/
theorem resolve_routes_best (fabric : Fabric) (network : Network) (destination : UInt32) (now_unix_s : UInt64)
    (routes : List Route) (seen : Resolution) :
    (routes.foldl (resolve_route fabric network destination now_unix_s) seen).best =
      routes.foldl (Selection.turn (gateway_binding fabric network destination now_unix_s) route_before) seen.best := by
  induction routes generalizing seen with
  | nil => rfl
  | cons route routes ih => rw [List.foldl_cons, List.foldl_cons, ih, resolve_route_best]

variable {binding : Binding} {destination : UInt32} {fabric : Fabric} {network : Network} {now_unix_s : UInt64}
  {route : Route}

theorem resolve_gateway_eq_ok (hok : resolve_gateway fabric network destination now_unix_s = .ok (route, binding)) :
    Selection.IsBest (gateway_binding fabric network destination now_unix_s) route_before network.routes
      (some (route, binding)) := by
  have hbest : Selection.IsBest (gateway_binding fabric network destination now_unix_s) route_before network.routes
      (Selection.select (gateway_binding fabric network destination now_unix_s) route_before network.routes) :=
    Selection.isBest_select route_before_irrefl route_before_trans network.routes
  have hselect : Selection.select (gateway_binding fabric network destination now_unix_s) route_before network.routes =
      some (route, binding) := by
    unfold resolve_gateway at hok
    dsimp only at hok
    rw [resolve_routes_best] at hok
    unfold Selection.select
    split at hok
    · rename_i found hfound
      rw [hfound, Except.ok.inj hok]
    · split at hok
      · cases hok
      · split at hok <;> cases hok
  rwa [hselect] at hbest

/-- A route of the network that covers the destination and has the longest
mask of all that do. -/
def LongestMatch (network : Network) (destination : UInt32) (route : Route) : Prop :=
  route ∈ network.routes ∧ route.matches destination = true ∧
    ∀ other ∈ network.routes, other.matches destination = true → other.prefix_length ≤ route.prefix_length

instance (network : Network) (destination : UInt32) (route : Route) :
    Decidable (LongestMatch network destination route) :=
  inferInstanceAs (Decidable (_ ∧ _ ∧ _))

/-- The loop of `lookup_route_v2` selects the best of the routes that match. -/
theorem lookup_routes_best (destination : UInt32) (routes : List Route) (best : Option (Route × Unit)) :
    routes.foldl (fun best candidate =>
        if prefix_contains candidate.destination_network candidate.prefix_length destination ∧
            route_is_better candidate best then some candidate else best) (best.map Prod.fst) =
      (routes.foldl (Selection.turn (fun route => if route.matches destination then some () else none) route_before)
        best).map Prod.fst := by
  induction routes generalizing best with
  | nil => rfl
  | cons route routes ih =>
    rw [List.foldl_cons, List.foldl_cons, ← ih]
    congr 1
    rw [route_is_better_eq_all]
    unfold Selection.turn Route.matches
    by_cases hmatches : prefix_contains route.destination_network route.prefix_length destination = true
    · simp only [hmatches, true_and, if_true]
      split <;> rfl
    · simp [hmatches]

/-- What `lookup_route_v2` finds is a longest match. -/
theorem lookup_route_eq_ok (hlookup : lookup_route_v2 network destination = .ok route) :
    LongestMatch network destination route := by
  have hbest : Selection.IsBest (fun route : Route => if route.matches destination then some () else none) route_before
      network.routes (Selection.select (fun route : Route => if route.matches destination then some () else none)
        route_before network.routes) :=
    Selection.isBest_select route_before_irrefl route_before_trans network.routes
  obtain ⟨-, hok⟩ := guard_passed hlookup
  have hfold := lookup_routes_best destination network.routes none
  rw [Option.map_none] at hfold
  rw [hfold] at hok
  unfold Selection.select at hbest
  split at hok
  · cases hok
  · rename_i found hfound
    obtain ⟨⟨selected, _⟩, hselected, rfl⟩ := Option.map_eq_some_iff.mp hfound
    obtain rfl := Except.ok.inj hok
    rw [hselected] at hbest
    obtain ⟨hmem, hmatches, hall⟩ := hbest
    refine ⟨hmem, (Option.ite_none_right_eq_some.mp hmatches).1, fun other hother hcovers => ?_⟩
    have hnot := hall other hother (by simp [hcovers])
    rw [Bool.eq_false_iff, ne_eq, route_before_iff, not_or] at hnot
    exact UInt8.not_lt.mp hnot.1

theorem gateway_binding_eq_some (hsome : gateway_binding fabric network destination now_unix_s route = some binding) :
    route.matches destination = true ∧ find_binding fabric network.uid (some route.next_hop_node_id) 0 = some binding ∧
      now_unix_s ≤ binding.not_after_unix_s := by
  obtain ⟨hmatches, hsome⟩ := guard_passed hsome
  obtain ⟨hfind, husable⟩ := Option.filter_eq_some_iff.mp hsome
  exact ⟨by simpa using (not_or.mp hmatches).1, hfind, (of_decide_eq_true husable).2.1⟩

end turbop2p.mesh_multi_network
