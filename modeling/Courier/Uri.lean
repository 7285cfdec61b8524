/-!
# Uri - addresses of servers

An address is a path alone, an authority alone, or a scheme with an authority, a path and a query; a
fragment is cut off.  Main statement: an address with a scheme has an authority too.
-/
namespace Courier

structure Uri where
  scheme : Option String := none
  authority : Option String := none
  path : String := ""
  query : Option String := none
deriving Repr, DecidableEq, Inhabited

namespace Uri

/-- Why a text is no address. -/
inductive Malformed
  | empty | tooLong | invalidCharacter | schemeTooLong | invalidAuthority | invalidFormat
deriving Repr, DecidableEq, Inhabited

def Malformed.message : Malformed → String
  | .empty => "empty string"
  | .tooLong => "uri too long"
  | .invalidCharacter => "invalid uri character"
  | .schemeTooLong => "scheme too long"
  | .invalidAuthority => "invalid authority"
  | .invalidFormat => "invalid format"

/-- It names a server: it has both a scheme and an authority. -/
def IsAbsolute (u : Uri) : Prop :=
  u.scheme.isSome ∧ u.authority.isSome

instance (u : Uri) : Decidable u.IsAbsolute := by
  unfold IsAbsolute
  infer_instance

def text (u : Uri) : String :=
  (u.scheme.map (· ++ "://")).getD "" ++ u.authority.getD "" ++ u.path ++ (u.query.map ("?" ++ ·)).getD ""

/-! ## Characters -/

/-- The longest text in bytes. -/
def maxLength : Nat := 65534

def maxSchemeLength : Nat := 64

/-- The most colons in one piece of an authority. -/
def maxColons : Nat := 8

def isSchemeChar (c : Char) : Bool :=
  c.isAlphanum || "+-.~".toList.contains c

def endsAuthority (c : Char) : Bool :=
  c == '/' || c == '?' || c == '#'

/-- A character of an authority without a meaning of its own. -/
def isPlainAuthorityChar (c : Char) : Bool :=
  c.isAlphanum || "!$&'()*+,-.;=_~".toList.contains c

def isPathChar (c : Char) : Bool :=
  let n := c.toNat
  n == 0x21 || (0x24 ≤ n && n ≤ 0x3b) || n == 0x3d || (0x40 ≤ n && n ≤ 0x5f) || (0x61 ≤ n && n ≤ 0x7a) ||
    n == 0x7c || n == 0x7e || n == 0x22 || n == 0x7b || n == 0x7d || 0x80 ≤ n

def isQueryChar (c : Char) : Bool :=
  let n := c.toNat
  n == 0x21 || (0x24 ≤ n && n ≤ 0x3b) || n == 0x3d || (0x3f ≤ n && n ≤ 0x7e) || 0x80 ≤ n

/-! ## Parts -/

/-- What was seen of an authority.  Colons and percent signs count only for the piece after the last `@`
or closing bracket. -/
structure Seen where
  colons : Nat := 0
  opened : Bool := false
  closed : Bool := false
  percent : Bool := false
  /-- The last character is an `@`. -/
  atSign : Bool := false

/-- Takes in one character of an authority. -/
def Seen.next (s : Seen) (c : Char) : Except Malformed Seen :=
  let t := { s with atSign := false }
  if c = ':' then
    if maxColons ≤ s.colons then .error .invalidAuthority else .ok { t with colons := s.colons + 1 }
  else if c = '[' then
    if s.percent || s.opened then .error .invalidAuthority else .ok { t with opened := true }
  else if c = ']' then
    if !s.opened || s.closed then .error .invalidAuthority
    else .ok { t with closed := true, colons := 0, percent := false }
  else if c = '@' then .ok { t with colons := 0, percent := false, atSign := true }
  else if c = '%' then .ok { t with percent := true }
  else if isPlainAuthorityChar c then .ok t
  else .error .invalidCharacter

/-- The authority as a whole is well formed. -/
def Seen.isComplete (s : Seen) : Bool :=
  s.opened == s.closed && s.colons ≤ 1 && !s.atSign && !s.percent

def checkAuthority (s : List Char) : Except Malformed Unit :=
  match s.foldlM Seen.next {} with
  | .error e => .error e
  | .ok seen => if seen.isComplete then .ok () else .error .invalidAuthority

/-- The path and the query of what follows an authority. -/
def pathAndQuery (s : List Char) : Except Malformed (String × Option String) :=
  let ends : Char → Bool := fun c => c == '?' || c == '#'
  let path := s.takeWhile (!ends ·)
  if !path.all isPathChar then .error .invalidCharacter
  else match s.dropWhile (!ends ·) with
    | '?' :: rest =>
      let query := rest.takeWhile (· != '#')
      if query.all isQueryChar then .ok (String.ofList path, some (String.ofList query))
      else .error .invalidCharacter
    | _ => .ok (String.ofList path, none)

/-- What follows a scheme in any case of letters. -/
def after? (scheme : String) (s : List Char) : Option (List Char) :=
  let mark := scheme.toList ++ "://".toList
  if (s.take mark.length).map Char.toLower = mark then some (s.drop mark.length) else none

/-- The scheme, if there is one, and what follows it. -/
def scheme? (s : List Char) : Except Malformed (Option (String × List Char)) :=
  match after? "http" s with
  | some rest => .ok (some ("http", rest))
  | none =>
    match after? "https" s with
    | some rest => .ok (some ("https", rest))
    | none =>
      match s.dropWhile isSchemeChar with
      | ':' :: '/' :: '/' :: rest =>
        let scheme := s.takeWhile isSchemeChar
        if s.length ≤ 3 then .ok none
        else if maxSchemeLength < scheme.length then .error .schemeTooLong
        else .ok (some (String.ofList scheme, rest))
      | _ => .ok none

def withScheme (scheme : String) (rest : List Char) : Except Malformed Uri :=
  let authority := rest.takeWhile (!endsAuthority ·)
  if rest = [] then .error .empty
  else match checkAuthority authority with
    | .error e => .error e
    | .ok () =>
      if authority = [] then .error .invalidFormat
      else match pathAndQuery (rest.dropWhile (!endsAuthority ·)) with
        | .error e => .error e
        | .ok (path, query) => .ok
          { scheme := some scheme, authority := some (String.ofList authority),
            path := if path = "" then "/" else path, query }

/-- The address that is an authority alone; `other` says what is wrong with one that is more. -/
def authorityAlone (other : Malformed) (s : List Char) : Except Malformed Uri :=
  match checkAuthority (s.takeWhile (!endsAuthority ·)) with
  | .error e => .error e
  | .ok () =>
    if s.any endsAuthority then .error other else .ok { authority := some (String.ofList s) }

/-- The address that is a path alone, with its query. -/
def pathAlone (s : List Char) : Except Malformed Uri :=
  match pathAndQuery s with
  | .error e => .error e
  | .ok (path, query) => .ok { path, query }

def parse (s : String) : Except Malformed Uri :=
  if maxLength < s.utf8ByteSize then .error .tooLong
  else match s.toList with
    | [] => .error .empty
    | ['*'] => .ok { path := "*" }
    | '/' :: rest => pathAlone ('/' :: rest)
    | [c] => authorityAlone .invalidCharacter [c]
    | cs =>
      match scheme? cs with
      | .error e => .error e
      | .ok (some (scheme, rest)) => withScheme scheme rest
      | .ok none => authorityAlone .invalidFormat cs

/-- An address with a scheme names a server. -/
theorem isAbsolute_of_scheme {s : String} {u : Uri} (h : parse s = .ok u) (hs : u.scheme.isSome) :
    u.IsAbsolute := by
  refine ⟨hs, ?_⟩
  unfold parse at h
  split at h
  · cases h
  split at h
  · cases h
  · cases h; simp at hs
  · unfold pathAlone at h
    split at h <;> cases h
    simp at hs
  · unfold authorityAlone at h
    split at h
    · cases h
    · split at h <;> cases h
      rfl
  · split at h
    · cases h
    · unfold withScheme at h
      simp only at h
      repeat' split at h
      all_goals cases h
      all_goals rfl
    · unfold authorityAlone at h
      split at h
      · cases h
      · split at h <;> cases h
        rfl

def parse? (s : String) : Option Uri :=
  (parse s).toOption

end Uri
end Courier
