import Courier.Payload.Values
import Courier.Scope
/-!
# Envelope - the resource and the scopes around the records of a batch

A batch has one resource, whose attributes are all kept.  Under it stands one message per scope, with the
scope, the records and the scope's schema url.
-/
namespace Courier
namespace Payload

open Wire

def putResource (field : Nat) (r : Resource) : Write Unit :=
  message field
    (putCounted .unlimited Schema.Resource.attributes Schema.Resource.dropped r.dropped r.attributes)

def putScope (allowance : Allowance) (field : Nat) (s : Scope) : Write Unit :=
  message field do
    putString Schema.Scope.name s.name
    putString? Schema.Scope.version s.version
    putCounted allowance Schema.Scope.attributes Schema.Scope.dropped 0 s.attributes

/-- Writes a scope and the records of it, each one by `put` as a field of the given number. -/
def putScopeGroup {α : Type} (allowance : Allowance) (put : Nat → α → Write Unit)
    (g : Scope × List α) : Write Unit :=
  message Schema.Envelope.perScope do
    putScope allowance Schema.Envelope.scope g.1
    putAll (put Schema.Envelope.records) g.2
    putNonempty Schema.Envelope.scopeUrl g.1.schemaUrl

/-- Writes a request with one resource and the records of its scopes. -/
def putRequest {α : Type} (allowance : Allowance) (put : Nat → α → Write Unit) (r : Resource)
    (groups : List (Scope × List α)) : Write Unit :=
  message Schema.Envelope.perResource do
    putResource Schema.Envelope.resource r
    putAll (putScopeGroup allowance put) groups
    putNonempty Schema.Envelope.resourceUrl r.schemaUrl

end Payload
end Courier
