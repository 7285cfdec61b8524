import Courier.Grpc.Target
import Courier.Http.Target
import Mathlib.Data.List.Induction
/-!
# Values - what a table has under a name

A table is told by the values that it has under each name.  Main statements: the last value of a name is the one that
a request over HTTP carries (`Http.Target.values_request`), and a call carries all values of a name that neither the
protocol nor a single connection has a use of its own for (`Grpc.Passes.values_request`).
-/
namespace Courier
namespace Header
namespace Table

/-- The values of the lines of a name, in the order of the lines. -/
def values (t : Table) (name : String) : List ByteArray :=
  (t.filter (·.1 == name)).map (·.2)

variable (t u : Table) (name other : String) (value : ByteArray)

theorem values_eq_nil_iff : t.values name = [] ↔ ∀ line ∈ t, line.1 ≠ name := by
  simp [values]

@[simp] theorem values_nil : values [] name = [] := rfl

@[simp] theorem values_cons_self : values ((name, value) :: t) name = value :: t.values name := by
  simp [values]

@[simp] theorem values_append : (t ++ u).values name = t.values name ++ u.values name := by
  simp [values]

/-- A name has the values of the lines that a choice by name keeps. -/
theorem values_filter (keep : String → Bool) :
    values (t.filter fun line => keep line.1) name = if keep name then t.values name else [] := by
  have hkeep : ∀ line : String × ByteArray, (line.1 == name && keep line.1) = (line.1 == name && keep name) := by
    intro line
    cases h : line.1 == name with
    | false => rfl
    | true => rw [eq_of_beq h]
  simp only [values, List.filter_filter, hkeep]
  cases keep name <;> simp

theorem values_single : values [(other, value)] name = if name = other then [value] else [] := by
  by_cases h : name = other
  · subst h
    simp
  · simp [values, h, Ne.symm h]

theorem values_insert : (t.insert other value).values name = if name = other then [value] else t.values name := by
  rw [insert, values_append, values_filter t name (· != other), values_single]
  by_cases h : name = other <;> simp [h]

/-- Lines that are put in one by one leave the last value of each name. -/
theorem values_foldl_insert : values (u.foldl (fun t line => t.insert line.1 line.2) t) name =
    (u.values name).getLast?.elim (t.values name) ([·]) := by
  induction u using List.reverseRecOn with
  | nil => rfl
  | append_singleton u line ih =>
    rw [List.foldl_append, List.foldl_cons, List.foldl_nil, values_insert, ih, values_append, values_single]
    by_cases h : name = line.1 <;> simp [h]

theorem values_replace : (t.replace u).values name = if u.values name = [] then t.values name else u.values name := by
  rw [replace, values_append, values_filter t name (fun n => !u.any (·.1 == n))]
  by_cases h : u.values name = []
  · have hany : (u.any (·.1 == name)) = false := by simpa using (values_eq_nil_iff u name).1 h
    simp [h, hany]
  · have hany : (u.any (·.1 == name)) = true := by simpa using mt (values_eq_nil_iff u name).2 h
    simp [h, hany]

theorem values_without (names : List String) :
    (t.without names).values name = if name ∈ names then [] else t.values name := by
  rw [without, values_filter t name (fun n => !names.contains n)]
  by_cases h : name ∈ names <;> simp [h]

theorem get?_eq_head? : t.get? name = (t.values name).head? := by
  induction t with
  | nil => rfl
  | cons line t ih =>
    obtain ⟨n, v⟩ := line
    by_cases h : name = n
    · subst h
      simp [get?]
    · have hne : values ((n, v) :: t) name = values t name := by simp [values, Ne.symm h]
      rw [hne, ← ih, get?, get?, List.lookup_cons, beq_false_of_ne h]

end Table
end Header

open Header.Table

/-- **A request over HTTP carries the last value of each name.** -/
theorem Http.Target.values_request (t : Target) (body : ByteArray) (name : String) :
    (t.request body).headers.values name = (t.headers.values name).getLast?.elim
      (if name = "content-type" then ["application/x-protobuf".toUTF8] else []) ([·]) := by
  rw [← values_single]
  exact values_foldl_insert _ _ _

namespace Grpc

/-- A name that neither the protocol nor a single connection has a use of its own for. -/
structure Passes (t : Header.Table) (name : String) : Prop where
  free : name ∉ reserved
  lasting : name ∉ hopByHop
  unnamed : name ∉ namedByConnection t

/-- The values of a name that count: of a user agent the first. -/
def counted (name : String) (values : List ByteArray) : List ByteArray :=
  if name = "user-agent" then values.head?.toList else values

theorem values_onlyFirst (first : String) (t : Header.Table) (name : String) :
    (onlyFirst first t).values name =
      if name = first then (t.values name).head?.toList else t.values name := by
  rw [onlyFirst, get?_eq_head?]
  cases h : (t.values first).head? with
  | none =>
    have hnil := List.head?_eq_none_iff.1 h
    by_cases hn : name = first
    · subst hn
      simp [hnil]
    · simp [hn]
  | some v =>
    rw [values_insert]
    by_cases hn : name = first
    · subst hn
      simp [h]
    · simp [hn]

/-- What a connection names is told by its own line alone. -/
theorem namedByConnection_congr {t u : Header.Table} (h : t.values "connection" = u.values "connection") :
    namedByConnection t = namedByConnection u := by
  rw [namedByConnection, namedByConnection, get?_eq_head?, get?_eq_head?, h]

theorem Target.values_request (t : Target) (body : ByteArray) (name : String) :
    (t.request body).headers.values name =
      if name ∈ hopByHop ++ namedByConnection t.metadata then []
      else if name = "content-type" then ["application/grpc".toUTF8]
      else if name ∈ reserved then []
      else counted name (t.metadata.values name) := by
  -- What is taken out and put in before is not the line `connection`, so it lists the same names.
  have hnamed : namedByConnection ((onlyFirst "user-agent" (t.metadata.without reserved)).append "content-type"
      "application/grpc".toUTF8) = namedByConnection t.metadata := by
    refine namedByConnection_congr ?_
    rw [append, values_append, values_single, values_onlyFirst, values_without]
    simp [reserved]
  rw [Target.request, endToEnd, values_without, hnamed, append, values_append, values_single, values_onlyFirst,
    values_without, counted]
  by_cases hr : name ∈ reserved
  · by_cases hc : name = "content-type"
    · subst hc
      simp [hr]
    · simp [hr, hc]
  · have hc : name ≠ "content-type" := fun hc => hr (hc ▸ by decide)
    simp [hr, hc]

/-- **A call carries the values of a name that passes**, those that count. -/
theorem Passes.values_request {t : Target} {name : String} (h : Passes t.metadata name) (body : ByteArray) :
    (t.request body).headers.values name = counted name (t.metadata.values name) := by
  have hc : name ≠ "content-type" := fun hc => h.free (hc ▸ by decide)
  rw [Target.values_request, if_neg (by simp [h.lasting, h.unnamed]), if_neg hc, if_neg h.free]

end Grpc
end Courier
