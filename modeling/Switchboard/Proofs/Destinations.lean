import Switchboard.Proofs.Addresses
import Switchboard.Proofs.Routines
import Switchboard.Proofs.Scripts

/-!
# Destinations

Whether an endpoint is relative is asked twice: when a socket is created, of the endpoint itself, and
when it connects, of the endpoint with the path and the query behind it.  The answers differ for two
endpoints.  Nothing at all becomes a path, and a slash becomes two of them: the former takes the host of
the origin though it did not ask for one, and the latter takes the path for a host.

Main definitions

* `portText`: the port of an origin, if it is given;
* `Socket.Addressed`: a socket keeps its endpoint, and the addresses that it has opened are made of it.

Main results

* `Completion.ofEndpoint_eq`: for which endpoints the two questions have one answer;
* `Socket.Routine.addressed`: a routine neither changes the endpoint nor opens another address;
* `Socket.destination_of_endpoint`: where a socket connects to.
-/

set_option autoImplicit false

namespace Switchboard

open Query

/-! ### What stands at the front of an endpoint -/

/-- The path behind an endpoint matters only if there is nothing or one slash in front of it. -/
theorem Completion.ofEndpoint_eq (endpoint : String) : ofEndpoint endpoint =
    if endpoint = "" then .host
    else if endpoint = "/" ∨ "//".toList <+: endpoint.toList then .scheme
    else if "/".toList <+: endpoint.toList then .host
    else .nothing := by
  unfold ofEndpoint ofChars
  simp only [List.isPrefixOf_iff_prefix]
  split_ifs <;> simp_all

/-- A port that is given stands behind the host. -/
def portText : Option Nat → String
  | some port => ":" ++ natText port
  | none => ""

theorem Origin.authorityText?_of_host {o : Origin} {host : String} (h : o.hostText? = some host) :
    o.authorityText? = some (host ++ portText o.port) := by
  rw [authorityText?, h, Option.map_some]
  cases o.port with
  | none => exact congrArg some (String.append_empty).symm
  | some port => exact congrArg some (String.append_assoc ..)

namespace Socket

variable {ω : Type} {s t s₀ : Socket (Recorded ω)} {endpoint : String} {config : Config} {cmd : Command}
variable {factory : Factory} {outside : ω}

/-- A socket has the endpoint, the version and the origin that it was created with, and whatever it has
opened was opened for an address that is made of them. -/
structure Addressed (given : String) (config : Config) (s : Socket (Recorded ω)) : Prop where
  endpoint : s.endpoint = websocketEndpoint given
  version : s.config.version = config.version
  origin : s.config.origin = config.origin
  opened : ∀ ⦃request : OpenRequest⦄, .open request ∈ s.dealings → ∃ params,
    endpointUrl (websocketEndpoint given) params config.version config.origin = .ok request.url

theorem Addressed.of_eq (h : Addressed endpoint config s) (hendpoint : t.endpoint = s.endpoint)
    (hversion : t.config.version = s.config.version) (horigin : t.config.origin = s.config.origin)
    (hdealings : t.dealings = s.dealings) : Addressed endpoint config t :=
  ⟨hendpoint.trans h.endpoint, hversion.trans h.version, horigin.trans h.origin,
    fun _ hmem => h.opened (hdealings ▸ hmem)⟩

/-- What a socket is created with is an endpoint that is not relative, or an origin is there. -/
theorem new_of_create (h : Socket.create endpoint config (⟨outside, [], []⟩ : Recorded ω) = .ok s) :
    (∃ factory, s = .new endpoint config factory ⟨outside, [], []⟩) ∧
      (config.origin = none → isRelative endpoint = false) := by
  unfold Socket.create at h
  split at h
  · cases h
  · rename_i factory _
    split at h
    · cases h
    · rename_i hrelative
      cases h
      refine ⟨⟨factory, rfl⟩, fun hnone => ?_⟩
      simpa [hnone] using hrelative

section Outside

variable [Outside ω]

/-- An effect may open a transport for such an address only. -/
theorem Addressed.perform (h : Addressed endpoint config s) {e : Effect}
    (he : ∀ request, e = .open request → ∃ params,
      endpointUrl s.endpoint params s.config.version s.config.origin = .ok request.url) :
    Addressed endpoint config (s.perform e) := by
  refine ⟨h.endpoint, h.version, h.origin, fun request hmem => ?_⟩
  have hdealings : (s.perform e).dealings = s.dealings ++ [e].filter Effect.concernsTransport := rfl
  rw [hdealings, List.mem_append] at hmem
  rcases hmem with hold | hnew
  · exact h.opened hold
  · rw [← h.endpoint, ← h.version, ← h.origin]
    exact he request (List.mem_singleton.mp (List.mem_of_mem_filter hnew)).symm

theorem Routine.addressed (h : Routine cmd s t) (hs : Addressed endpoint config s) :
    Addressed endpoint config t := by
  cases h with
  | elsewhere elsewhere =>
    refine hs.of_eq elsewhere.endpoint elsewhere.version elsewhere.origin ?_
    rw [dealings, elsewhere.outside, dealings]
  | draws evolves => exact hs.of_eq rfl rfl rfl rfl
  | perform plain =>
    refine hs.perform fun request heq => ?_
    rw [heq] at plain
    cases plain
  | hook callback event payload ref => exact hs.of_eq rfl rfl rfl rfl
  | error callback failure context => exact hs.of_eq rfl rfl rfl rfl
  | opens address =>
    refine hs.perform fun request heq => ?_
    cases heq
    exact ⟨_, address⟩
  | alters channel keeps => exact hs.of_eq rfl rfl rfl rfl
  | enters channel keeps => exact hs.of_eq rfl rfl rfl rfl
  | @sends c p ch ch' q m channel push params join event payload =>
    have hset : Addressed endpoint config { s with channels := s.channels.set c ch' } :=
      hs.of_eq rfl rfl rfl rfl
    exact hset.perform fun request heq => by cases heq
  | creates timeout refs asked => exact hs.of_eq rfl rfl rfl rfl
  | erases d => exact hs.of_eq rfl rfl rfl rfl
  | ends => exact hs.of_eq rfl rfl rfl rfl

theorem Routines.addressed (h : Routines cmd s t) (hs : Addressed endpoint config s) :
    Addressed endpoint config t := by
  induction h with
  | refl => exact hs
  | tail _ routine ih => exact routine.addressed ih

/-! ### Runs -/

variable [Obliging ω] {admits : Socket (Recorded ω) → Command → Prop}

theorem addressed_of_run (h : Run admits (.new endpoint config factory ⟨outside, [], []⟩) s) :
    Addressed endpoint config s := by
  induction h with
  | refl => exact ⟨rfl, rfl, rfl, nofun⟩
  | @tail t u run step ih =>
    cases step with
    | surroundings acts o => exact ih.of_eq rfl rfl rfl rfl
    | @take cmd x next admitted =>
      have hsound : Sound t := Reachable.sound ⟨endpoint, config, factory, outside, run⟩
      have hx : Addressed endpoint config { t with exchange := x } := ih.of_eq rfl rfl rfl rfl
      exact Routines.addressed (routines_handle _ cmd fun c p hp =>
        ((due_of_next? hsound next).push hp).2.1) hx
    | abandon =>
      have hroutines : Routines .shutdown t t.shutdown := routines_shutdown t
      exact hroutines.addressed ih

/--
Where a socket connects to that was created with an endpoint, at any time of its life and with any
parameters.  Without an origin the endpoint is not relative, so it stands unchanged in front of the path and the
query; but an empty endpoint, which a socket can be created with, has no address.  With an origin that has
a host, an endpoint behind a single slash takes the scheme, the host and the port of the origin, one behind
two slashes takes the scheme, and any other stands unchanged.  But an empty endpoint takes the host,
too, and a slash on its own takes the scheme only, so that the path stands where a host is expected.  All that is
opened is opened for such an address.
-/
theorem destination_of_endpoint
    (hcreated : Socket.create endpoint config (⟨outside, [], []⟩ : Recorded ω) = .ok s₀)
    (hrun : Run (fun _ _ => True) s₀ s) (params : Json) :
    ∃ uri, uri = withPairs (endpoint ++ "/websocket") (connectionPairs params config.version) ∧
      (config.origin = none → endpointUrl s.endpoint params s.config.version s.config.origin =
        if endpoint = "" then .error (.relativeEndpoint "/websocket") else .ok uri) ∧
      (∀ o host, config.origin = some o → o.hostText? = some host →
        endpointUrl s.endpoint params s.config.version s.config.origin = .ok
          (if endpoint = "" then websocketScheme o ++ "://" ++ (host ++ portText o.port) ++ uri
          else if endpoint = "/" ∨ "//".toList <+: endpoint.toList then websocketScheme o ++ ":" ++ uri
          else if "/".toList <+: endpoint.toList then
            websocketScheme o ++ "://" ++ (host ++ portText o.port) ++ uri
          else uri)) ∧
      ∀ request : OpenRequest, .open request ∈ s.dealings → ∃ params,
        endpointUrl s.endpoint params s.config.version s.config.origin = .ok request.url := by
  obtain ⟨⟨factory, rfl⟩, hrelative⟩ := new_of_create hcreated
  have hs := addressed_of_run hrun
  rw [hs.endpoint, hs.version, hs.origin, endpointUrl_websocketEndpoint, Completion.ofEndpoint_eq]
  refine ⟨_, rfl, fun hnone => ?_, fun o host ho hhost => ?_, fun request hmem => hs.opened hmem⟩
  · have hslash : ¬ "/".toList <+: endpoint.toList := by
      have hnot : "/".toList.isPrefixOf endpoint.toList = false := hrelative hnone
      rw [← List.isPrefixOf_iff_prefix, hnot]
      exact Bool.false_ne_true
    have htwo : ¬ (endpoint = "/" ∨ "//".toList <+: endpoint.toList) := by
      rintro (rfl | htwo)
      · exact hslash (List.prefix_refl _)
      · exact hslash ((show "/".toList <+: "//".toList from ⟨['/'], rfl⟩).trans htwo)
    split_ifs with hempty
    · rw [hnone, hempty]
      rfl
    · rfl
  · rw [ho]
    split_ifs with hempty htwo hone
    · simp only [Completion.complete?, Origin.authorityText?_of_host hhost, Option.map_some]
      rfl
    · rfl
    · simp only [Completion.complete?, Origin.authorityText?_of_host hhost, Option.map_some]
      rfl
    · rfl

end Outside

/-! ### Two endpoints -/

/-- A page with an origin. -/
def page : Config := { Config.standard with
  transport := some ⟨0, "standard", false, false⟩
  origin := some ⟨"https", false, "", none, some (.domain "example.com"), none, "/", none, none⟩ }

/-- A socket of a page that has not connected. -/
def unconnected (endpoint : String) (config : Config) : Socket (Recorded Idle) :=
  .new endpoint config ⟨0, "standard", false, false⟩ ⟨⟨.connecting, 0⟩, [], []⟩

/-- A slash takes the path for a host, and an empty endpoint has no address without an origin. -/
theorem destination_of_endpoint_short : ∃ s t : Socket (Recorded Idle),
    Run (fun _ _ => True) (unconnected "/" page) s ∧
      endpointUrl s.endpoint .empty s.config.version s.config.origin
        = .ok "wss://websocket?vsn=2.0.0" ∧
      Run (fun _ _ => True) (unconnected "" { page with origin := none }) t ∧
      endpointUrl t.endpoint .empty t.config.version t.config.origin
        = .error (.relativeEndpoint "/websocket") := by
  have hconnects : ∀ s₀ : Socket (Recorded Idle),
      (s₀.play? (fun _ _ => true) [.connect, .take]).isSome = true → ∃ s, Run (fun _ _ => True) s₀ s := by
    intro s₀ hsome
    obtain ⟨s, hplay⟩ := Option.isSome_iff_exists.mp hsome
    exact ⟨s, run_of_play? (fun _ _ _ => trivial) hplay⟩
  obtain ⟨s, hs⟩ := hconnects (unconnected "/" page) rfl
  obtain ⟨t, ht⟩ := hconnects (unconnected "" { page with origin := none }) rfl
  have hslash : Socket.create "/" page (⟨⟨.connecting, 0⟩, [], []⟩ : Recorded Idle)
      = .ok (unconnected "/" page) := rfl
  have hempty : Socket.create "" { page with origin := none }
      (⟨⟨.connecting, 0⟩, [], []⟩ : Recorded Idle)
      = .ok (unconnected "" { page with origin := none }) := rfl
  obtain ⟨uri, huri, -, horigin, -⟩ := destination_of_endpoint hslash hs .empty
  obtain ⟨uri', -, hnone, -⟩ := destination_of_endpoint hempty ht .empty
  refine ⟨s, t, hs, ?_, ht, hnone rfl⟩
  rw [horigin _ _ rfl rfl, huri]
  cbv

end Socket

end Switchboard
