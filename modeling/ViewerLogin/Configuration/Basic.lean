import ViewerLogin.Configuration.Setting
import ViewerLogin.Toml.Document

/-!
# Configurations

A configuration says where to listen, what the grid is like and which accounts it starts with.
All that a document leaves out is standard, and what it says besides is passed over.
-/

namespace ViewerLogin

/-! ## Listeners -/

structure Listeners where
  calls : String
  datagrams : String
  deriving DecidableEq, Repr

namespace Listeners

def standard : Listeners := ⟨"127.0.0.1:9000", "127.0.0.1:9001"⟩

def keys : List String := ["rpc_bind", "udp_bind"]

def ofMembers? (members : List (String × Toml)) : Option Listeners := do
  return {
    calls := ← Toml.optional? members "rpc_bind" standard.calls Toml.asText?
    datagrams := ← Toml.optional? members "udp_bind" standard.datagrams Toml.asText? }

def ofToml? (value : Toml) : Option Listeners := (value.asRecord? keys).bind ofMembers?

end Listeners

/-! ## Accounts to start with -/

structure Seat where
  first : String
  last : String
  passwd : String
  disabled : Bool
  deriving DecidableEq, Repr

namespace Seat

def keys : List String := ["first", "last", "passwd", "disabled"]

def ofMembers? (members : List (String × Toml)) : Option Seat := do
  return {
    first := ← Toml.required? members "first" Toml.asText?
    last := ← Toml.required? members "last" Toml.asText?
    passwd := ← Toml.required? members "passwd" Toml.asText?
    disabled := ← Toml.optional? members "disabled" false Toml.asTruth? }

def ofToml? (value : Toml) : Option Seat := (value.asRecord? keys).bind ofMembers?

end Seat

/-! ## Configurations -/

structure Configuration where
  listeners : Listeners
  grid : Grid
  seats : List Seat
  deriving DecidableEq, Repr

namespace Configuration

def standard : Configuration := ⟨.standard, .standard, []⟩

def ofMembers? (members : List (String × Toml)) : Option Configuration := do
  return {
    listeners := ← Toml.optional? members "server" .standard Listeners.ofToml?
    grid := ← Toml.optional? members "grid" .standard Grid.ofToml?
    seats := ← Toml.optional? members "accounts" [] (Toml.asListOf? Seat.ofToml?) }

def ofText? (text : String) : Option Configuration := (Toml.ofText? text).bind ofMembers?

end Configuration

end ViewerLogin
