import Courier.Proofs.Http.Sent
import Courier.Proofs.Precedence
import Courier.Proofs.Uri
/-!
# Endpoint - where requests over HTTP go

Main statement: no client is built just where the program's endpoint is no address, and a client sends its requests to
a server with a scheme and an authority just where the text that its address comes from is not relative
(`Http.Config.absolute_iff`).
-/
namespace Courier
namespace Http

open Settings (Variable)

/-- The text, if it can be read as an address. -/
def readable (s : Option String) : Option String := s.filter fun s => (Uri.parse? s).isSome

namespace Config

/-- The texts that an address may come from, of which the first one counts. -/
def addresses (c : Config) (env : Environment) (signal : Signal) : List (Option String) :=
  [c.common.ownEndpoint, readable (env.text? (Variable.endpoint.nameFor signal)),
    readable ((env.text? Variable.endpoint.name).map (withPath · signal)), some (withPath defaultServer signal)]

end Config

/-- What can be read is an address. -/
theorem bind_parse? (s : Option String) :
    (s.bind Uri.parse? = none ∧ readable s = none) ∨
      ∃ address uri, readable s = some address ∧ Uri.parse address = .ok uri ∧ s.bind Uri.parse? = some uri := by
  cases s with
  | none => exact .inl ⟨rfl, rfl⟩
  | some s =>
    cases hparse : Uri.parse s with
    | error m =>
      have hnone : Uri.parse? s = none := by rw [Uri.parse?, hparse]; rfl
      simp [readable, hnone]
    | ok uri =>
      have hsome : Uri.parse? s = some uri := by rw [Uri.parse?, hparse]; rfl
      exact .inr ⟨s, uri, by simp [readable, hsome], hparse, hsome⟩

/-! ## Relative texts -/

/-- The path of a signal is put behind the text, and begins it where the text is empty. -/
theorem toList_withPath (s : String) (signal : Signal) : ∃ tail, (withPath s signal).toList = s.toList ++ tail ∧
    '/' ∈ tail ∧ (s = "" → tail.head? = some '/') := by
  unfold withPath
  split
  · rename_i hlast
    refine ⟨(path signal).toList.drop 1, ?_, by cases signal <;> decide, ?_⟩
    · rw [String.toList_append, String.toList_ofList]
    · rintro rfl
      cases hlast
  · exact ⟨(path signal).toList, String.toList_append, by cases signal <;> decide, fun _ => by cases signal <;> rfl⟩

theorem relative_withPath (s : String) (signal : Signal) :
    Uri.Relative (withPath s signal) ↔ s = "" ∨ s.toList.head? = some '/' := by
  obtain ⟨tail, htext, hslash, hempty⟩ := toList_withPath s signal
  have hmem : '/' ∈ (withPath s signal).toList := by
    rw [htext]
    exact List.mem_append_right _ hslash
  have hhead : (withPath s signal).toList.head? = some '/' ↔ s = "" ∨ s.toList.head? = some '/' := by
    rw [htext]
    by_cases hs : s = ""
    · subst hs
      simpa using hempty rfl
    · obtain ⟨c, rest, hcs⟩ := List.exists_cons_of_ne_nil (mt String.toList_eq_nil_iff.1 hs)
      simp [hs, hcs]
  -- With a slash in it, it is neither a star nor an authority.
  rw [← hhead]
  constructor
  · rintro (h | h | h)
    · exact h
    · rw [h] at hmem
      cases List.mem_singleton.1 hmem
    · cases h '/' hmem
  · exact .inl

theorem not_relative_default (signal : Signal) : ¬ Uri.Relative (withPath defaultServer signal) := by
  rw [relative_withPath]
  decide

namespace Config

variable {c : Config} {env : Environment} {signal : Signal} {uri : Uri}

theorem mapError_eq_ok_iff {f : Uri.Malformed → BuildError} {x : Except Uri.Malformed Uri} :
    x.mapError f = .ok uri ↔ x = .ok uri := by
  cases x <;> simp [Except.mapError]

theorem exists_address_of_environment (h : environmentUri env signal = .ok uri) :
    ∃ address, First [readable (env.text? (Variable.endpoint.nameFor signal)),
      readable ((env.text? Variable.endpoint.name).map (withPath · signal)), some (withPath defaultServer signal)]
        address ∧ Uri.parse address = .ok uri := by
  have hshared : ((env.text? Variable.endpoint.name).bind fun s => Uri.parse? (withPath s signal)) =
      ((env.text? Variable.endpoint.name).map (withPath · signal)).bind Uri.parse? := by
    rw [Option.bind_map]
    rfl
  simp only [environmentUri, hshared] at h
  obtain ⟨hown, hread⟩ | ⟨address, uri', hread, hparse, hown⟩ :=
    bind_parse? (env.text? (Variable.endpoint.nameFor signal))
  · simp only [hread, first_none]
    obtain ⟨hshared, hread⟩ | ⟨address, uri', hread, hparse, hshared⟩ :=
      bind_parse? ((env.text? Variable.endpoint.name).map (withPath · signal))
    · simp only [hread, first_none]
      rw [hown, hshared] at h
      exact ⟨_, first_some.2 rfl, h⟩
    · rw [hread]
      rw [hown, hshared] at h
      cases h
      exact ⟨address, first_some.2 rfl, hparse⟩
  · rw [hread]
    rw [hown] at h
    cases h
    exact ⟨address, first_some.2 rfl, hparse⟩

/-- The address is read from the first of the texts. -/
theorem exists_address (h : c.uri env signal = .ok uri) :
    ∃ address, First (c.addresses env signal) address ∧ Uri.parse address = .ok uri := by
  unfold Config.uri at h
  unfold addresses
  cases hown : c.common.ownEndpoint with
  | some endpoint =>
    simp only [hown, mapError_eq_ok_iff] at h
    exact ⟨endpoint, first_some.2 rfl, h⟩
  | none =>
    simp only [hown, mapError_eq_ok_iff] at h
    obtain ⟨address, hfirst, hparse⟩ := exists_address_of_environment h
    exact ⟨address, first_none.2 hfirst, hparse⟩

end Config

/-- **Where requests go.**  No client is built just where the program's endpoint is no address.  Else the address is
read from the first text there is, which the program or a variable gives unless it is the default, and every request
goes there; it has a scheme and an authority just where the text is not relative.  That of the variable for all
signals is relative where the variable is empty or begins with a slash, and the default is not. -/
theorem Config.absolute_iff (c : Config) (env : Environment) (signal : Signal) :
    (∀ e, c.build env signal = .error e ↔ ∃ endpoint m, c.common.endpoint = some endpoint ∧ endpoint ≠ "" ∧
      Uri.parse endpoint = .error m ∧ e = .invalidUri endpoint m.message) ∧
    (∀ target, c.build env signal = .ok target → ∃ address, First (c.addresses env signal) address ∧
      Uri.parse address = .ok target.uri ∧
      ∀ r, target.Sends r → r.uri = target.uri ∧ (r.uri.IsAbsolute ↔ ¬ Uri.Relative address)) ∧
    (∀ s, Uri.Relative (withPath s signal) ↔ s = "" ∨ s.toList.head? = some '/') ∧
    ¬ Uri.Relative (withPath defaultServer signal) := by
  refine ⟨fun e => build_eq_error_iff, fun target h => ?_, fun s => relative_withPath s signal,
    not_relative_default signal⟩
  obtain ⟨uri, huri, rfl⟩ := build_eq_ok_iff.1 h
  obtain ⟨address, hfirst, hparse⟩ := exists_address huri
  refine ⟨address, hfirst, hparse, fun r hr => ?_⟩
  obtain ⟨body, rfl⟩ := Target.sends_iff.1 hr
  exact ⟨rfl, Uri.isAbsolute_iff hparse⟩

/-- The variable of the signal holds no address, and that for all signals one that ends in a slash. -/
def slashEnvironment : Environment :=
  (Environment.empty.set "OTEL_EXPORTER_OTLP_TRACES_ENDPOINT" "-*/*-/*-//-/-/invalid-uri".toUTF8).set
    "OTEL_EXPORTER_OTLP_ENDPOINT" "https://otel/base/".toUTF8

theorem Config.absolute_iff_slash : ∃ target, ({} : Config).build slashEnvironment .traces = .ok target ∧
    First (({} : Config).addresses slashEnvironment .traces) "https://otel/base/v1/traces" ∧
    ∀ r, target.Sends r → r.uri.IsAbsolute := by
  have haddresses : First (({} : Config).addresses slashEnvironment .traces) "https://otel/base/v1/traces" := by
    unfold First
    decide +kernel
  obtain ⟨herror, hbuilt, -⟩ := absolute_iff {} slashEnvironment .traces
  cases hbuild : ({} : Config).build slashEnvironment .traces with
  | error e =>
    obtain ⟨endpoint, -, hset, -⟩ := (herror e).1 hbuild
    cases hset
  | ok target =>
    obtain ⟨address, hfirst, -, hsends⟩ := hbuilt target hbuild
    obtain rfl : address = "https://otel/base/v1/traces" := Option.some.inj (hfirst.symm.trans haddresses)
    exact ⟨target, rfl, haddresses, fun r hr => (hsends r hr).2.2 (by decide +kernel)⟩

/-- An empty variable is an endpoint, and its requests go nowhere: the default is not asked. -/
theorem Config.sends_relative : ∃ target r,
    ({} : Config).build (Environment.empty.set "OTEL_EXPORTER_OTLP_ENDPOINT" "".toUTF8) .traces = .ok target ∧
    target.Sends r ∧ r.uri = { path := "/v1/traces" } ∧ ¬ r.uri.IsAbsolute :=
  ⟨_, _, rfl, Target.sends_iff.2 ⟨.empty, rfl⟩, by decide +kernel, by decide +kernel⟩

end Http
end Courier
