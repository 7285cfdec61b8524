import Courier.Proofs.Http.Sent
import Courier.Proofs.Precedence
/-!
# Orders - what the order of the program's headers decides

The program's headers are kept by their names as they are written and come in any order, while a request knows names
without regard to case.  Main statement: a name that the environment does not list carries one of the values that the
program has for its spellings, and the order decides which just where these are several
(`Http.Config.carries_of_orders`).
-/
namespace Courier
namespace Http

open Header (name? value?)
open Header.Table (ofPairs values)
open Settings (listed)

/-- Pairs that are given one after the other. -/
abbrev Given : Type := List (String × String)

/-- The text that was given last for a name that is written so. -/
def Given.last? (given : Given) (key : String) : Option String :=
  (given.filter (·.1 == key)).getLast?.map fun pair => Percent.decodeOrKeep pair.2

/-- What the program has for a name that is written so: what it was given last, or else the default. -/
def Given.Holds (given : Given) (key text : String) : Prop :=
  given.last? key = some text ∨ given.last? key = none ∧ (key, text) ∈ Settings.defaultHeaders

/-- The program has a value for a name in some spelling. -/
def Given.Offers (given : Given) (name : String) (value : ByteArray) : Prop :=
  ∃ key text, given.Holds key text ∧ name? key = some name ∧ value? text = some value

/-- The name is not written in two ways, the default's among them. -/
def Given.OneSpelling (given : Given) (name : String) : Prop :=
  ∀ pair ∈ given ++ Settings.defaultHeaders, ∀ pair' ∈ given ++ Settings.defaultHeaders,
    name? pair.1 = some name → name? pair'.1 = some name → pair.1 = pair'.1

instance (given : Given) (name : String) : Decidable (given.OneSpelling name) := by
  unfold Given.OneSpelling
  infer_instance

/-- The program's settings after calls that give headers. -/
def Config.after (common : Settings) (calls : List Given) : Config :=
  calls.foldl Config.withHeaders { common }

/-- A client that is built from the settings sends a request, in some order of their headers. -/
def Config.MaySend (c : Config) (env : Environment) (signal : Signal) (r : Request) : Prop :=
  ∃ lines target, lines.Perm c.headers ∧ { c with headers := lines }.build env signal = .ok target ∧ target.Sends r

/-- The values of a name where neither the program nor the environment has one. -/
def bare (name : String) : List ByteArray :=
  if name = "content-type" then ["application/x-protobuf".toUTF8] else []

/-- What a request carries for a name. -/
inductive Carries (given : Given) (env : Environment) (signal : Signal) (name : String) : List ByteArray → Prop
  | environment {value : ByteArray} (h : (listed env signal name).getLast? = some value) :
    Carries given env signal name [value]
  | program {value : ByteArray} (h : listed env signal name = []) (offers : given.Offers name value) :
    Carries given env signal name [value]
  | neither (h : listed env signal name = []) (none : ∀ value, ¬ given.Offers name value) :
    Carries given env signal name (bare name)

/-! ## The program's headers -/

/-- A header in place of the one whose name is written alike. -/
def put (lines : Given) (pair : String × String) : Given :=
  lines.filter (·.1 != pair.1) ++ [(pair.1, Percent.decodeOrKeep pair.2)]

theorem headers_foldl_withHeaders (calls : List Given) (c : Config) :
    (calls.foldl Config.withHeaders c).headers = calls.flatten.foldl put c.headers := by
  induction calls generalizing c with
  | nil => rfl
  | cons pairs calls ih =>
    rw [List.foldl_cons, ih, List.flatten_cons, List.foldl_append]
    rfl

section Given

variable {given : Given} {key text name : String}

theorem last?_append (pair : String × String) : Given.last? (given ++ [pair]) key =
    if pair.1 = key then some (Percent.decodeOrKeep pair.2) else given.last? key := by
  by_cases h : pair.1 = key <;> simp [Given.last?, h]

theorem mem_foldl_put : (key, text) ∈ given.foldl put Settings.defaultHeaders ↔ given.Holds key text := by
  induction given using List.reverseRecOn with
  | nil => simp [Given.Holds, Given.last?]
  | append_singleton given pair ih =>
    -- The last pair has the only say for its name as it is written, and none for any other.
    rw [List.foldl_append, List.foldl_cons, List.foldl_nil, Given.Holds, last?_append]
    by_cases h : pair.1 = key
    · subst h
      simp [put, eq_comm]
    · rw [if_neg h, ← Given.Holds, ← ih]
      simp [put, Ne.symm h]

/-- A name that is written so has one text. -/
theorem Given.Holds.unique {text' : String} (h : given.Holds key text) (h' : given.Holds key text') : text = text' := by
  obtain h | ⟨hnone, h⟩ := h <;> obtain h' | ⟨hnone', h'⟩ := h'
  · exact Option.some.inj (h.symm.trans h')
  · cases hnone'.symm.trans h
  · cases hnone.symm.trans h'
  · have hpair := List.mem_singleton.1 h
    have hpair' := List.mem_singleton.1 h'
    exact (congrArg Prod.snd hpair).trans (congrArg Prod.snd hpair').symm

theorem Given.mem_of_last? (h : given.last? key = some text) : ∃ pair ∈ given, pair.1 = key := by
  obtain ⟨pair, hpair, -⟩ := Option.map_eq_some_iff.1 h
  obtain ⟨hmem, hkey⟩ := List.mem_filter.1 (List.mem_of_getLast? hpair)
  exact ⟨pair, hmem, eq_of_beq hkey⟩

/-- What the program has was given to it, or is the default. -/
theorem Given.Holds.mem (h : given.Holds key text) : ∃ pair ∈ given ++ Settings.defaultHeaders, pair.1 = key := by
  obtain h | ⟨-, h⟩ := h
  · obtain ⟨pair, hmem, hkey⟩ := Given.mem_of_last? h
    exact ⟨pair, List.mem_append_left _ hmem, hkey⟩
  · exact ⟨_, List.mem_append_right _ h, rfl⟩

/-- Where a name is written in one way only, what is held under it is all that there is. -/
theorem Given.OneSpelling.offers_iff {value : ByteArray} (h : given.OneSpelling name) (hkey : given.Holds key text)
    (hname : name? key = some name) : given.Offers name value ↔ value? text = some value := by
  constructor
  · rintro ⟨key', text', hkey', hname', hvalue⟩
    obtain ⟨pair, hmem, rfl⟩ := hkey.mem
    obtain ⟨pair', hmem', rfl⟩ := hkey'.mem
    rw [h pair hmem pair' hmem' hname hname'] at hkey
    rwa [hkey.unique hkey']
  · intro hvalue
    exact ⟨key, text, hkey, hname, hvalue⟩

theorem Given.OneSpelling.offers_unique {value value' : ByteArray} (h : given.OneSpelling name)
    (hoffers : given.Offers name value) (hoffers' : given.Offers name value') : value = value' := by
  obtain ⟨key, text, hkey, hname, hvalue⟩ := hoffers
  exact Option.some.inj (hvalue.symm.trans ((h.offers_iff hkey hname).1 hoffers'))

end Given

/-! ## What requests carry -/

/-- Requests differ in a name only where the program has several values for it. -/
theorem Carries.unique {given : Given} {env : Environment} {signal : Signal} {name : String}
    {sent sent' : List ByteArray} (h : Carries given env signal name sent) (h' : Carries given env signal name sent')
    (hone : listed env signal name ≠ [] ∨
      ∀ value value', given.Offers name value → given.Offers name value' → value = value') : sent = sent' := by
  cases h with
  | environment h =>
    cases h' with
    | environment h' => rw [Option.some.inj (h.symm.trans h')]
    | program h' | neither h' =>
      rw [h'] at h
      cases h
  | program h offers =>
    cases h' with
    | environment h' =>
      rw [h] at h'
      cases h'
    | program _ offers' => rw [hone.resolve_left (not_not_intro h) _ _ offers offers']
    | neither _ none => cases none _ offers
  | neither h none =>
    cases h' with
    | environment h' =>
      rw [h] at h'
      cases h'
    | program _ offers => cases none _ offers
    | neither => rfl

/-- Where a name is written in one way only, what was given last is what it carries, if that is a value. -/
theorem Carries.eq_of_last? {given : Given} {env : Environment} {signal : Signal} {key text name : String}
    {sent : List ByteArray} (h : Carries given env signal name sent) (hone : given.OneSpelling name)
    (hlast : given.last? key = some text) (hname : name? key = some name) (hlisted : listed env signal name = []) :
    sent = (value? text).elim (bare name) ([·]) := by
  have hoffers (value : ByteArray) : given.Offers name value ↔ value? text = some value :=
    hone.offers_iff (.inl hlast) hname
  cases h with
  | environment h =>
    rw [hlisted] at h
    cases h
  | program _ offers =>
    rw [(hoffers _).1 offers]
    rfl
  | neither _ none =>
    rw [Option.eq_none_iff_forall_ne_some.2 fun value hvalue => none value ((hoffers value).2 hvalue)]
    rfl

theorem mem_ofPairs {pairs : Given} {name : String} {value : ByteArray} : (name, value) ∈ ofPairs pairs ↔
    ∃ key text, (key, text) ∈ pairs ∧ name? key = some name ∧ value? text = some value := by
  rw [ofPairs, List.mem_filterMap, Prod.exists]
  refine exists_congr fun key => exists_congr fun text => and_congr_right fun _ => ?_
  cases hname : name? key <;> cases hvalue : value? text <;> simp [hname, hvalue]

theorem mem_values_ofPairs {pairs : Given} {name : String} {value : ByteArray} : value ∈ (ofPairs pairs).values name ↔
    ∃ key text, (key, text) ∈ pairs ∧ name? key = some name ∧ value? text = some value := by
  rw [← mem_ofPairs]
  simp [values]

theorem values_ofPairs_append {pairs : Given} {key text name : String} {value : ByteArray}
    (hname : name? key = some name) (hvalue : value? text = some value) :
    (ofPairs (pairs ++ [(key, text)])).values name = (ofPairs pairs).values name ++ [value] := by
  simp [ofPairs, hname, hvalue]

theorem values_perm {pairs pairs' : Given} (h : pairs.Perm pairs') (name : String) :
    ((ofPairs pairs).values name).Perm ((ofPairs pairs').values name) :=
  ((h.filterMap _).filter _).map _

namespace Config

variable {common : Settings} {calls : List Given} {env : Environment} {signal : Signal} {name : String}

theorem mem_headers_after {key text : String} :
    (key, text) ∈ (Config.after common calls).headers ↔ Given.Holds calls.flatten key text := by
  rw [after, headers_foldl_withHeaders]
  exact mem_foldl_put

theorem offers_iff {value : ByteArray} :
    value ∈ (ofPairs (after common calls).headers).values name ↔ Given.Offers calls.flatten name value := by
  simp only [mem_values_ofPairs, mem_headers_after, Given.Offers]

theorem values_of_order {c : Config} {lines : Given} {target : Target} {r : Request}
    (h : { c with headers := lines }.build env signal = .ok target) (hr : target.Sends r) (name : String) :
    r.headers.values name = (listed env signal name).getLast?.elim
      (((ofPairs lines).values name).getLast?.elim (bare name) ([·])) ([·]) := by
  obtain ⟨body, rfl⟩ := Target.sends_iff.1 hr
  obtain ⟨uri, -, rfl⟩ := build_eq_ok_iff.1 h
  rw [Target.values_request, values_lines]
  cases (listed env signal name).getLast? <;> rfl

/-- The program's values for a name come in any order, and the last one counts. -/
theorem MaySend.exists_values {c : Config} {r : Request} (h : c.MaySend env signal r) (name : String) :
    ∃ own : List ByteArray, own.Perm ((ofPairs c.headers).values name) ∧
      r.headers.values name = (listed env signal name).getLast?.elim (own.getLast?.elim (bare name) ([·])) ([·]) := by
  obtain ⟨lines, target, hperm, hbuild, hr⟩ := h
  exact ⟨_, values_perm hperm name, values_of_order hbuild hr name⟩

theorem carries_of_maySend {r : Request} (h : (after common calls).MaySend env signal r) (name : String) :
    Carries calls.flatten env signal name (r.headers.values name) := by
  obtain ⟨own, hperm, hsent⟩ := h.exists_values name
  have hmem (value : ByteArray) : value ∈ own ↔ Given.Offers calls.flatten name value := by
    rw [hperm.mem_iff, offers_iff]
  rw [hsent]
  cases hlisted : (listed env signal name).getLast? with
  | some value => exact .environment hlisted
  | none =>
    have hnone := List.getLast?_eq_none_iff.1 hlisted
    cases hlast : own.getLast? with
    | some value => exact .program hnone ((hmem value).1 (List.mem_of_getLast? hlast))
    | none =>
      refine .neither hnone fun value hoffers => ?_
      have hin := (hmem value).2 hoffers
      rw [List.getLast?_eq_none_iff.1 hlast] at hin
      cases hin

/-- A client that is built in one order is built in each. -/
theorem maySend_of_order {c : Config} {target : Target} (h : c.build env signal = .ok target) {lines : Given}
    (hperm : lines.Perm c.headers) : ∃ r, c.MaySend env signal r ∧ ∀ name, r.headers.values name =
      (listed env signal name).getLast?.elim (((ofPairs lines).values name).getLast?.elim (bare name) ([·])) ([·]) := by
  obtain ⟨uri, huri, -⟩ := build_eq_ok_iff.1 h
  have huri' : { c with headers := lines }.uri env signal = .ok uri := huri
  obtain ⟨target', hbuild⟩ : ∃ target', { c with headers := lines }.build env signal = .ok target' :=
    ⟨_, build_eq_ok_iff.2 ⟨uri, huri', rfl⟩⟩
  have hsends : target'.Sends (target'.request .empty) := Target.sends_iff.2 ⟨_, rfl⟩
  exact ⟨_, ⟨lines, target', hperm, hbuild, hsends⟩, values_of_order hbuild hsends⟩

/-- Every value that the program has for a name comes last in some order. -/
theorem maySend_of_offers {target : Target} {value : ByteArray}
    (h : (after common calls).build env signal = .ok target) (hlisted : listed env signal name = [])
    (hoffers : Given.Offers calls.flatten name value) :
    ∃ r, (after common calls).MaySend env signal r ∧ r.headers.values name = [value] := by
  obtain ⟨key, text, hkey, hname, hvalue⟩ := hoffers
  have hmem : (key, text) ∈ (after common calls).headers := mem_headers_after.2 hkey
  -- Taken out and put behind the others, it is the last of its name.
  have hperm : ((after common calls).headers.erase (key, text) ++ [(key, text)]).Perm (after common calls).headers :=
    (List.perm_append_singleton _ _).trans (List.perm_cons_erase hmem).symm
  obtain ⟨r, hr, hsent⟩ := maySend_of_order h hperm
  refine ⟨r, hr, ?_⟩
  rw [hsent, hlisted, values_ofPairs_append hname hvalue, List.getLast?_concat]
  rfl

theorem agree_iff {target : Target} (h : (after common calls).build env signal = .ok target) :
    (∀ r r', (after common calls).MaySend env signal r → (after common calls).MaySend env signal r' →
      r.headers.values name = r'.headers.values name) ↔
    listed env signal name ≠ [] ∨ ∀ value value', Given.Offers calls.flatten name value →
      Given.Offers calls.flatten name value' → value = value' := by
  constructor
  · intro hagree
    by_cases hlisted : listed env signal name = []
    · refine .inr fun value value' hoffers hoffers' => ?_
      obtain ⟨r, hr, hsent⟩ := maySend_of_offers h hlisted hoffers
      obtain ⟨r', hr', hsent'⟩ := maySend_of_offers h hlisted hoffers'
      have hsame := hagree r r' hr hr'
      rw [hsent, hsent'] at hsame
      exact List.singleton_inj.1 hsame
    · exact .inl hlisted
  · intro hone r r' hr hr'
    exact (carries_of_maySend hr name).unique (carries_of_maySend hr' name) hone

/-- **What the order of the program's headers decides.**  A name carries the last value that the environment lists, or
else a value that the program has for one of its spellings, or else what it carries without one.  All orders agree on
a name just where the environment lists it or the program has one value at most; and where the name is written in one
way only, the default's among them, they agree, and what was given last comes in place of the default. -/
theorem carries_of_orders (common : Settings) (calls : List Given) (env : Environment) (signal : Signal)
    (name : String) :
    (∀ r, (after common calls).MaySend env signal r → Carries calls.flatten env signal name (r.headers.values name)) ∧
    (∀ target, (after common calls).build env signal = .ok target →
      ((∀ r r', (after common calls).MaySend env signal r → (after common calls).MaySend env signal r' →
        r.headers.values name = r'.headers.values name) ↔
      listed env signal name ≠ [] ∨ ∀ value value', Given.Offers calls.flatten name value →
        Given.Offers calls.flatten name value' → value = value')) ∧
    (Given.OneSpelling calls.flatten name →
      (∀ r r', (after common calls).MaySend env signal r → (after common calls).MaySend env signal r' →
        r.headers.values name = r'.headers.values name) ∧
      ∀ key text, Given.last? calls.flatten key = some text → name? key = some name →
        listed env signal name = [] → ∀ r, (after common calls).MaySend env signal r →
          r.headers.values name = (value? text).elim (bare name) ([·])) := by
  refine ⟨fun r hr => carries_of_maySend hr name, fun target h => agree_iff h, fun hone => ⟨fun r r' hr hr' => ?_,
    fun key text hlast hname hlisted r hr => ?_⟩⟩
  · exact (carries_of_maySend hr name).unique (carries_of_maySend hr' name) (.inr fun _ _ => hone.offers_unique)
  · exact (carries_of_maySend hr name).eq_of_last? hone hlast hname hlisted

/-- The user agent is replaced, and a tenant twice. -/
def tenantCalls : List Given := [[("x-tenant", "acme")], [("User-Agent", "mine"), ("x-tenant", "acme%20two")]]

theorem carries_of_orders_tenant :
    Given.OneSpelling tenantCalls.flatten "x-tenant" ∧ Given.OneSpelling tenantCalls.flatten "user-agent" ∧
    (∃ r, (after { protocol := .http } tenantCalls).MaySend .empty .traces r) ∧
    ∀ r, (after { protocol := .http } tenantCalls).MaySend .empty .traces r →
      r.headers.values "x-tenant" = ["acme two".toUTF8] ∧ r.headers.values "user-agent" = ["mine".toUTF8] := by
  have htenant : Given.OneSpelling tenantCalls.flatten "x-tenant" := by decide +kernel
  have hagent : Given.OneSpelling tenantCalls.flatten "user-agent" := by decide +kernel
  obtain ⟨target, htarget⟩ : ∃ target, (after { protocol := .http } tenantCalls).build .empty .traces = .ok target :=
    ⟨_, rfl⟩
  obtain ⟨r, hr, -⟩ := maySend_of_order htarget (.refl _)
  have hsent (name : String) := (carries_of_orders { protocol := .http } tenantCalls .empty .traces name).2.2
  refine ⟨htenant, hagent, ⟨r, hr⟩, fun r hr => ⟨?_, ?_⟩⟩
  · rw [(hsent _ htenant).2 "x-tenant" "acme two" (by decide +kernel) (by decide +kernel) rfl r hr]
    decide +kernel
  · rw [(hsent _ hagent).2 "User-Agent" "mine" (by decide +kernel) (by decide +kernel) rfl r hr]
    decide +kernel

/-- The default user agent and one that is written in lower case are both kept, and the order tells which is sent; and
where the given one is no value once it is decoded, the default is sent in every order, though a line that is written
like the default's takes its place. -/
theorem orders_differ :
    (∃ r r', (after { protocol := .http } [[("user-agent", "mine")]]).MaySend .empty .traces r ∧
      (after { protocol := .http } [[("user-agent", "mine")]]).MaySend .empty .traces r' ∧
      r.headers.values "user-agent" = ["mine".toUTF8] ∧
      r'.headers.values "user-agent" = ["OTel-OTLP-Transmission-Rust/0.31.0".toUTF8]) ∧
    (∀ r, (after { protocol := .http } [[("user-agent", "mine%0A")]]).MaySend .empty .traces r →
      r.headers.values "user-agent" = ["OTel-OTLP-Transmission-Rust/0.31.0".toUTF8]) ∧
    ∀ r, (after { protocol := .http } [[("User-Agent", "mine%0A")]]).MaySend .empty .traces r →
      r.headers.values "user-agent" = [] := by
  refine ⟨?_, fun r hr => ?_, fun r hr => ?_⟩
  · obtain ⟨target, htarget⟩ : ∃ target,
        (after { protocol := .http } [[("user-agent", "mine")]]).build .empty .traces = .ok target := ⟨_, rfl⟩
    obtain ⟨r, hr, hsent⟩ := maySend_of_order htarget (.refl _)
    obtain ⟨r', hr', hsent'⟩ := maySend_of_order htarget (List.reverse_perm _)
    refine ⟨r, r', hr, hr', ?_, ?_⟩
    · rw [hsent]
      decide +kernel
    · rw [hsent']
      decide +kernel
  · obtain ⟨own, hperm, hsent⟩ := hr.exists_values "user-agent"
    have hown : (ofPairs (after { protocol := .http } [[("user-agent", "mine%0A")]]).headers).values "user-agent" =
        ["OTel-OTLP-Transmission-Rust/0.31.0".toUTF8] := by decide +kernel
    rw [hown] at hperm
    rw [hsent, List.perm_singleton.1 hperm]
    rfl
  · obtain ⟨own, hperm, hsent⟩ := hr.exists_values "user-agent"
    have hown : (ofPairs (after { protocol := .http } [[("User-Agent", "mine%0A")]]).headers).values "user-agent" =
        [] := by decide +kernel
    rw [hown] at hperm
    rw [hsent, List.perm_nil.1 hperm]
    rfl

end Config
end Http
end Courier
