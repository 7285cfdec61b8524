import Courier.Limits
import Courier.Proofs.Text.Bytes
import Courier.Proofs.Text.Number
/-!
# Limits - what the environment says of them

Main statement: the two variables for all limits say what the program says with one limit of each kind, a variable of
one limit sets that limit and those that take after it and no other, and a variable without a number says nothing
(`Limits.ofEnvironment_agrees`).
-/
namespace Courier

open Text (Spells)

namespace Environment

/-- The variable holds a way to write the number. -/
def Holds (env : Environment) (name : String) (n : UInt64) : Prop :=
  ∃ text : String, env name = some text.toUTF8 ∧ Spells n.toNat text.toList

/-- The variable is not set, or what it holds is no number of 64 bits. -/
def HoldsNone (env : Environment) (name : String) : Prop := ∀ n, ¬ env.Holds name n

def unset (env : Environment) (name : String) : Environment :=
  fun n => if n = name then none else env n

variable {env : Environment} {name other : String} {n : UInt64}

theorem number?_eq_some_iff : env.number? name = some n ↔ env.Holds name n := by
  simp only [number?, text?, Holds, Option.bind_eq_some_iff, Text.fromUTF8?_eq_some_iff, Text.paddedWord?_eq_some_iff]
  constructor
  · rintro ⟨text, ⟨value, hvalue, rfl⟩, hspells⟩
    exact ⟨text, hvalue, hspells⟩
  · rintro ⟨text, hvalue, hspells⟩
    exact ⟨text, ⟨_, hvalue, rfl⟩, hspells⟩

theorem number?_eq_none_iff : env.number? name = none ↔ env.HoldsNone name := by
  simp only [Option.eq_none_iff_forall_ne_some, HoldsNone, ne_eq, number?_eq_some_iff]

theorem number?_set (value : ByteArray) : (env.set name value).number? other =
    if other = name then (env.set name value).number? name else env.number? other := by
  by_cases h : other = name
  · rw [if_pos h, h]
  · simp [number?, text?, set, h]

theorem number?_set_spelled {text : String} (h : Spells n.toNat text.toList) :
    (env.set name text.toUTF8).number? other = if other = name then some n else env.number? other := by
  rw [number?_set, number?_eq_some_iff.2 ⟨text, if_pos rfl, h⟩]

theorem number?_unset (h : env.HoldsNone name) : (env.unset name).number? = env.number? := by
  funext other
  by_cases hname : other = name
  · rw [hname, number?_eq_none_iff.2 h]
    simp [number?, text?, unset]
  · simp [number?, text?, unset, hname]

end Environment

namespace Limits

/-- The variables for limits that no other one speaks of. -/
def countVariable : String := "OTEL_ATTRIBUTE_COUNT_LIMIT"

def lengthVariable : String := "OTEL_ATTRIBUTE_VALUE_LENGTH_LIMIT"

/-- The limits that have a variable each. -/
inductive Specific
  | spanValueLength | spanAttributeCount | eventCount | linkCount | eventAttributeCount | linkAttributeCount
  | logAttributeCount | logValueLength
deriving DecidableEq

namespace Specific

def name : Specific → String
  | .spanValueLength => "OTEL_SPAN_ATTRIBUTE_VALUE_LENGTH_LIMIT"
  | .spanAttributeCount => "OTEL_SPAN_ATTRIBUTE_COUNT_LIMIT"
  | .eventCount => "OTEL_SPAN_EVENT_COUNT_LIMIT"
  | .linkCount => "OTEL_SPAN_LINK_COUNT_LIMIT"
  | .eventAttributeCount => "OTEL_EVENT_ATTRIBUTE_COUNT_LIMIT"
  | .linkAttributeCount => "OTEL_LINK_ATTRIBUTE_COUNT_LIMIT"
  | .logAttributeCount => "OTEL_LOGRECORD_ATTRIBUTE_COUNT_LIMIT"
  | .logValueLength => "OTEL_LOGRECORD_ATTRIBUTE_VALUE_LENGTH_LIMIT"

/-- What is set for the limit. -/
def limit (l : Limits) : Specific → Option UInt64
  | .spanValueLength => l.spanValueLength
  | .spanAttributeCount => some l.spanAttributeCount
  | .eventCount => some l.eventCount
  | .linkCount => some l.linkCount
  | .eventAttributeCount => some l.eventAttributeCount
  | .linkAttributeCount => some l.linkAttributeCount
  | .logAttributeCount => some l.logAttributeCount
  | .logValueLength => l.logValueLength

/-- The variable of one limit speaks of another: the count for spans does so of their events and links, where these
have no number of their own. -/
inductive SpeaksOf (env : Environment) : Specific → Specific → Prop
  | itself (v : Specific) : SpeaksOf env v v
  | event (h : env.HoldsNone eventAttributeCount.name) : SpeaksOf env spanAttributeCount eventAttributeCount
  | link (h : env.HoldsNone linkAttributeCount.name) : SpeaksOf env spanAttributeCount linkAttributeCount

/-- A number for one limit is put where its variable speaks of, and the other limits stay as they are. -/
structure Puts (env : Environment) (v : Specific) (n : UInt64) (before after : Limits) : Prop where
  put : ∀ w, SpeaksOf env v w → w.limit after = some n
  kept : ∀ w, ¬ SpeaksOf env v w → w.limit after = w.limit before
  general : after.attributeCount = before.attributeCount ∧ after.valueLength = before.valueLength

end Specific

theorem ext_of_limit {l l' : Limits} (hlimit : ∀ w : Specific, w.limit l = w.limit l')
    (hcount : l.attributeCount = l'.attributeCount) (hlength : l.valueLength = l'.valueLength) : l = l' := by
  obtain ⟨⟩ := l
  obtain ⟨⟩ := l'
  congr
  · exact hlimit .spanValueLength
  · exact Option.some.inj (hlimit .spanAttributeCount)
  · exact Option.some.inj (hlimit .eventCount)
  · exact Option.some.inj (hlimit .linkCount)
  · exact Option.some.inj (hlimit .eventAttributeCount)
  · exact Option.some.inj (hlimit .linkAttributeCount)
  · exact Option.some.inj (hlimit .logAttributeCount)
  · exact hlimit .logValueLength

namespace Specific

variable {env : Environment} {v w : Specific} {n : UInt64} {text : String}

/-- What stands in for a limit whose variable holds no number. -/
def fallback (env : Environment) : Specific → Option UInt64
  | .spanValueLength | .logValueLength => env.number? lengthVariable
  | .spanAttributeCount | .logAttributeCount => some ((env.number? countVariable).getD defaultCount)
  | .eventCount | .linkCount => some defaultCount
  | .eventAttributeCount | .linkAttributeCount =>
    (env.number? spanAttributeCount.name).or (some ((env.number? countVariable).getD defaultCount))

/-- A limit is the number of its own variable, or else what stands in for it. -/
theorem limit_ofEnvironment (env : Environment) (w : Specific) :
    w.limit (ofEnvironment env) = (env.number? w.name).or (w.fallback env) := by
  have hgetD (number : Option UInt64) (default : UInt64) : some (number.getD default) = number.or (some default) := by
    cases number <;> rfl
  cases w <;> simp only [limit, ofEnvironment, fallback, name, countVariable, lengthVariable, hgetD]

theorem name_injective (h : v.name = w.name) : v = w := by
  revert h
  cases v <;> cases w <;> decide

theorem name_ne (v : Specific) : v.name ≠ countVariable ∧ v.name ≠ lengthVariable := by
  cases v <;> decide

section Set

variable (h : Spells n.toNat text.toList)

include h

theorem number?_set_name : (env.set v.name text.toUTF8).number? w.name =
    if w = v then some n else env.number? w.name := by
  rw [Environment.number?_set_spelled h]
  by_cases hw : w = v
  · rw [if_pos hw, if_pos (congrArg name hw)]
  · rw [if_neg hw, if_neg (mt name_injective hw)]

theorem number?_set_general (env : Environment) (v : Specific) :
    (env.set v.name text.toUTF8).number? countVariable = env.number? countVariable ∧
      (env.set v.name text.toUTF8).number? lengthVariable = env.number? lengthVariable := by
  rw [Environment.number?_set_spelled h, Environment.number?_set_spelled h, if_neg v.name_ne.1.symm,
    if_neg v.name_ne.2.symm]
  exact ⟨rfl, rfl⟩

/-- Only the number for the attributes of spans stands in for another. -/
theorem fallback_set (hw : v ≠ spanAttributeCount ∨ w ≠ eventAttributeCount ∧ w ≠ linkAttributeCount) :
    w.fallback (env.set v.name text.toUTF8) = w.fallback env := by
  obtain ⟨hcount, hlength⟩ := number?_set_general h env v
  have hspan : v ≠ spanAttributeCount → (env.set v.name text.toUTF8).number? spanAttributeCount.name =
      env.number? spanAttributeCount.name := fun hv => by rw [number?_set_name h, if_neg (Ne.symm hv)]
  cases w <;> simp only [fallback, hcount, hlength]
  case eventAttributeCount => rw [hspan (hw.resolve_right fun hw => hw.1 rfl)]
  case linkAttributeCount => rw [hspan (hw.resolve_right fun hw => hw.2 rfl)]

theorem put_of_speaksOf (hw : SpeaksOf env v w) :
    w.limit (ofEnvironment (env.set v.name text.toUTF8)) = some n := by
  rw [limit_ofEnvironment]
  cases hw with
  | itself => rw [number?_set_name h, if_pos rfl, Option.some_or]
  | event hnone | link hnone =>
    rw [number?_set_name h, if_neg (by decide), Environment.number?_eq_none_iff.2 hnone, Option.none_or, fallback,
      number?_set_name h, if_pos rfl, Option.some_or]

theorem kept_of_not_speaksOf (hw : ¬ SpeaksOf env v w) :
    w.limit (ofEnvironment (env.set v.name text.toUTF8)) = w.limit (ofEnvironment env) := by
  have hne : w ≠ v := fun heq => hw (heq ▸ .itself w)
  rw [limit_ofEnvironment, limit_ofEnvironment, number?_set_name h, if_neg hne]
  cases hown : env.number? w.name with
  | some m => rw [Option.some_or, Option.some_or]
  | none =>
    -- The number for spans stands in for this limit only where the variable speaks of it.
    have hnone := Environment.number?_eq_none_iff.1 hown
    rw [Option.none_or, Option.none_or]
    refine fallback_set h (or_iff_not_imp_left.2 fun hspan => ?_)
    obtain rfl := not_ne_iff.1 hspan
    exact ⟨fun heq => hw (heq ▸ .event (heq ▸ hnone)), fun heq => hw (heq ▸ .link (heq ▸ hnone))⟩

theorem puts_ofEnvironment_set :
    v.Puts env n (ofEnvironment env) (ofEnvironment (env.set v.name text.toUTF8)) where
  put _ := put_of_speaksOf h
  kept _ := kept_of_not_speaksOf h
  general := by
    obtain ⟨hcount, hlength⟩ := number?_set_general h env v
    exact ⟨congrArg (·.getD defaultCount) hcount, hlength⟩

end Set

end Specific

theorem ofEnvironment_generic {env : Environment} {n m : UInt64} (hn : env.Holds countVariable n)
    (hm : env.Holds lengthVariable m) (hopen : ∀ v : Specific, env.HoldsNone v.name) :
    ofEnvironment env = (withAttributeCount {} n).withValueLength m := by
  have hcount : env.number? countVariable = some n := Environment.number?_eq_some_iff.2 hn
  have hlength : env.number? lengthVariable = some m := Environment.number?_eq_some_iff.2 hm
  refine ext_of_limit (fun w => ?_) (congrArg (·.getD defaultCount) hcount) hlength
  have hspan := Environment.number?_eq_none_iff.2 (hopen .spanAttributeCount)
  rw [Specific.limit_ofEnvironment, Environment.number?_eq_none_iff.2 (hopen w), Option.none_or]
  cases w <;> simp only [Specific.fallback, hcount, hlength, hspan, Option.none_or] <;> rfl

/-- Limits are made of the numbers that the variables hold. -/
theorem ofEnvironment_congr {env other : Environment} (h : env.number? = other.number?) :
    ofEnvironment env = ofEnvironment other := by
  simp only [ofEnvironment, h]

theorem withAttributeCount_withValueLength (l : Limits) (n m : UInt64) :
    (l.withAttributeCount n).withValueLength m = (l.withValueLength m).withAttributeCount n := rfl

/-- **What the environment says of the limits is what the program can say of them.** -/
theorem ofEnvironment_agrees (env : Environment) :
    (∀ n m, env.Holds countVariable n → env.Holds lengthVariable m → (∀ v : Specific, env.HoldsNone v.name) →
      ofEnvironment env = (withAttributeCount {} n).withValueLength m ∧
        ofEnvironment env = (withValueLength {} m).withAttributeCount n) ∧
    (∀ (v : Specific) (text : String) (n : UInt64), Spells n.toNat text.toList →
      v.Puts env n (ofEnvironment env) (ofEnvironment (env.set v.name text.toUTF8))) ∧
    ∀ name, env.HoldsNone name → ofEnvironment (env.unset name) = ofEnvironment env := by
  refine ⟨fun n m hn hm hopen => ?_, fun v text n h => Specific.puts_ofEnvironment_set h, fun name h => ?_⟩
  · have h := ofEnvironment_generic hn hm hopen
    exact ⟨h, h.trans (withAttributeCount_withValueLength {} n m)⟩
  · exact ofEnvironment_congr (Environment.number?_unset h)

/-- Both generic limits, one with blanks, a sign and zeros around it, and a variable that holds no number. -/
def paddedSettings : Environment :=
  ((Environment.empty.set countVariable " +0007\t".toUTF8).set lengthVariable "12".toUTF8).set
    Specific.linkCount.name "many".toUTF8

theorem ofEnvironment_agrees_padded :
    paddedSettings.Holds countVariable 7 ∧ paddedSettings.Holds lengthVariable 12 ∧
      (∀ v : Specific, paddedSettings.HoldsNone v.name) ∧ Spells 20 "\n020".toList ∧
      (ofEnvironment paddedSettings = (withAttributeCount {} 7).withValueLength 12 ∧
        ofEnvironment paddedSettings = (withValueLength {} 12).withAttributeCount 7) ∧
      Specific.spanAttributeCount.Puts paddedSettings 20 (ofEnvironment paddedSettings)
        (ofEnvironment (paddedSettings.set Specific.spanAttributeCount.name "\n020".toUTF8)) ∧
      ofEnvironment (paddedSettings.unset Specific.linkCount.name) = ofEnvironment paddedSettings := by
  have hcount : paddedSettings.Holds countVariable 7 := Environment.number?_eq_some_iff.1 (by decide +kernel)
  have hlength : paddedSettings.Holds lengthVariable 12 := Environment.number?_eq_some_iff.1 (by decide +kernel)
  have hopen (v : Specific) : paddedSettings.HoldsNone v.name :=
    Environment.number?_eq_none_iff.1 (by cases v <;> decide +kernel)
  have hspells : Spells (20 : UInt64).toNat "\n020".toList := Text.paddedWord?_eq_some_iff.1 (by decide +kernel)
  obtain ⟨hgeneric, hputs, hunset⟩ := ofEnvironment_agrees paddedSettings
  exact ⟨hcount, hlength, hopen, hspells, hgeneric 7 12 hcount hlength hopen,
    hputs .spanAttributeCount _ 20 hspells, hunset _ (hopen .linkCount)⟩

end Limits
end Courier
