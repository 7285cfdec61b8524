import Courier.Text.Number
/-!
# Environment - the named settings a process starts with

A value is raw bytes.  A value that is not valid UTF-8 counts as absent, and so does a number that
cannot be read.
-/
namespace Courier

/-- The variables that are set, each with the bytes of its value. -/
def Environment : Type :=
  String → Option ByteArray

namespace Environment

def empty : Environment :=
  fun _ => none

def set (env : Environment) (name : String) (value : ByteArray) : Environment :=
  fun n => if n = name then some value else env n

def text? (env : Environment) (name : String) : Option String :=
  (env name).bind String.fromUTF8?

def number? (env : Environment) (name : String) : Option UInt64 :=
  (env.text? name).bind Text.paddedWord?

end Environment
end Courier
