import ViewerLogin.Response.Maturity
import ViewerLogin.Response.Presentation

/-!
# Grids

What a grid tells every viewer it lets in, and the settings that may change while it runs.
-/

namespace ViewerLogin

structure Grid where
  simAddress : IpAddress
  simPort : UInt16
  httpPort : UInt16
  regionX : UInt32
  regionY : UInt32
  regionSize : UInt32
  capabilityBase : String
  mapServer : String
  welcome : String
  access : Maturity
  accessLimit : Maturity
  libraryOwner : Uuid
  libraryRoot : Uuid
  groupLimit : UInt32
  cloudTexture : Uuid
  sunTexture : Uuid
  moonTexture : Uuid
  categories : List Category
  deriving DecidableEq, Repr

namespace Grid

def standardCategories : List Category := [
  ⟨1, "Shopping"⟩, ⟨2, "Land Rental"⟩, ⟨3, "Property Rental"⟩, ⟨4, "Special Attraction"⟩,
  ⟨5, "New Products"⟩, ⟨6, "Employment"⟩, ⟨7, "Wanted"⟩, ⟨8, "Service"⟩, ⟨9, "Personal"⟩]

def standard : Grid where
  simAddress := .loopback
  simPort := 9001
  httpPort := 0
  regionX := 256000
  regionY := 256000
  regionSize := 256
  capabilityBase := "http://127.0.0.1:9000/CAPS"
  mapServer := "http://127.0.0.1:9000/map/"
  welcome := "Welcome to the grid"
  access := .mature
  accessLimit := .adult
  libraryOwner := .ofNat 0x11111111111100000000000100bba000
  libraryRoot := .ofNat 0x00000112000f00000000000100bba000
  groupLimit := 42
  cloudTexture := .ofNat 0xdc4b9f0bd00845c696a401dd947ac621
  sunTexture := .ofNat 0xcce0f112878f4586a2e2a8f104bba271
  moonTexture := .ofNat 0xec4b9f0bd00845c696a401dd947ac621
  categories := standardCategories

def skyTextures (grid : Grid) : SkyTextures :=
  ⟨some grid.cloudTexture, some grid.sunTexture, some grid.moonTexture⟩

end Grid

/-! ## Settings that may change -/

structure RunSettings where
  loginsEnabled : Bool
  maxRequestBytes : Nat
  deriving DecidableEq, Repr

namespace RunSettings

def standard : RunSettings := ⟨true, 65536⟩

def sizeLimit : Nat := 0x10000000000000000

def parseSize? (text : String) : Option Nat :=
  (match text.toList with
    | '+' :: digits => Decimal.readNatural? digits
    | digits => Decimal.readNatural? digits).filter (· < sizeLimit)

/-- Texts from the environment replace the standard settings where they can be read. -/
def ofTexts (loginsEnabled maxRequestBytes : Option String) : RunSettings where
  loginsEnabled :=
    (loginsEnabled.bind Wire.Codec.parseTruth?).getD standard.loginsEnabled
  maxRequestBytes := (maxRequestBytes.bind parseSize?).getD standard.maxRequestBytes

example : ofTexts (some "no") (some "+12") = ⟨true, 12⟩ := by decide +kernel

end RunSettings

end ViewerLogin
