import SocketReactor.Host.Program

/-!
# Name lookup

Host names to addresses and back. An address literal stands for itself and never
reaches the name service.
-/

namespace SocketReactor.Lookup

def unknownName : LookupFailure := ⟨-2, "Name or service not known"⟩

def failed (host : String) (failure : LookupFailure) : Fault :=
  .unresolved host failure.code failure.reason

def entryAddress? : Option RawAddress → Option Address
  | some raw => match raw.family? with
    | some .inet4 => some (.v4 raw.ipv4)
    | some .inet6 => some (.v6 raw.ipv6)
    | _ => none
  | none => none

def wanted (family : Option Family) (address : Address) : Bool :=
  family.all (address.family = ·)

/-- The addresses of the wanted family in a list of entries, each where it comes first. -/
def addresses (family : Option Family) (entries : List (Option RawAddress)) : List Address :=
  ((entries.filterMap entryAddress?).filter (wanted family)).foldl
    (fun found address => if address ∈ found then found else found ++ [address]) []

def addressesOf (host : String) (family : Option Family) : Attempt (List Address) :=
  match Address.parse host with
  | .ok address => pure (if wanted family address then [address] else [])
  | .error _ =>
      if family = some .unix then throw (.unsupportedFamily Family.unix.name)
      else if '\x00' ∈ host.toList then throw (failed host unknownName)
      else ExceptT.mk do
        match ← Program.request (.lookup host) with
        | .ok entries => return .ok (addresses family entries)
        | .error failure => return .error (failed host failure)

/-- One address of a family for a host: a literal of the family, else the first that
the name service gives. -/
def resolve (host : String) (family : Family) : Attempt Address :=
  match family with
  | .unix => throw (.unsupportedFamily family.name)
  | _ => match Address.parseFamily host family with
    | .ok address => pure address
    | .error _ => match Address.parse host with
      | .ok _ => throw (.badAddress host family.name)
      | .error _ => do
          match ← addressesOf host (some family) with
          | address :: _ => pure address
          | [] => throw (.unresolved host unknownName.code ("no " ++ family.name ++ " address"))

def hostname (address : Address) : Attempt String :=
  ExceptT.mk do
    match ← Program.request (.reverseLookup (Endpoint.unset address).wire) with
    | .ok name => return .ok name
    | .error failure => return .error (failed address.text failure)

/-- The addresses of the interfaces, without unspecified and loopback addresses. -/
def interfaces : Attempt (List Address) := do
  let entries ← Attempt.ofCall (Program.request .interfaces) (.transferFailed · "getifaddrs")
  return (entries.filterMap entryAddress?).filter fun address =>
    !address.isAny && !address.isLoopback

end SocketReactor.Lookup
