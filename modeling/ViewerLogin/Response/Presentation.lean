import ViewerLogin.Wire.Codec

/-!
# What the viewer shows

Sky textures, categories of classified advertisements, settings of the viewer and the flags
of the account.
-/

namespace ViewerLogin

open Wire (Codec Record)

/-! ## Sky textures -/

structure SkyTextures where
  cloud : Option Uuid
  sun : Option Uuid
  moon : Option Uuid
  deriving DecidableEq, Repr

namespace SkyTextures

def unset : SkyTextures := ⟨none, none, none⟩

def record : Record SkyTextures where
  write textures := [
    ("cloud_texture_id", Codec.uuid.write textures.cloud),
    ("sun_texture_id", Codec.uuid.write textures.sun),
    ("moon_texture_id", Codec.uuid.write textures.moon)]
  read members := do
    return {
      cloud := ← Codec.uuid.readAt members "cloud_texture_id"
      sun := ← Codec.uuid.readAt members "sun_texture_id"
      moon := ← Codec.uuid.readAt members "moon_texture_id" }

end SkyTextures

/-! ## Categories -/

structure Category where
  id : Int32
  name : String
  deriving DecidableEq, Repr

def Category.record : Record Category where
  write category := [
    ("category_id", Codec.word.required.write category.id),
    ("category_name", Codec.text.required.write category.name)]
  read members := do
    return {
      id := ← Codec.word.required.readAt members "category_id"
      name := ← Codec.text.required.readAt members "category_name" }

/-! ## Settings of the viewer -/

structure ViewerSettings where
  firstLifeAllowed : Option Bool
  deriving DecidableEq, Repr

namespace ViewerSettings

def unset : ViewerSettings := ⟨none⟩

def record : Record ViewerSettings where
  write settings := [("allow_first_life", Codec.flag.write settings.firstLifeAllowed)]
  read members := do
    return { firstLifeAllowed := ← Codec.flag.readAt members "allow_first_life" }

end ViewerSettings

/-! ## Flags of the account -/

structure LoginFlags where
  stipendPaid : Option Bool
  everLoggedIn : Option Bool
  daylightSavings : Option Bool
  gendered : Option Bool
  clock : Option UInt64
  deriving DecidableEq, Repr

namespace LoginFlags

def unset : LoginFlags := ⟨none, none, none, none, none⟩

def record : Record LoginFlags where
  write flags := [
    ("stipend_since_login", Codec.flag.write flags.stipendPaid),
    ("ever_logged_in", Codec.flag.write flags.everLoggedIn),
    ("daylight_savings", Codec.flag.write flags.daylightSavings),
    ("gendered", Codec.flag.write flags.gendered),
    ("seconds_since_epoch", Codec.word.write flags.clock)]
  read members := do
    return {
      stipendPaid := ← Codec.flag.readAt members "stipend_since_login"
      everLoggedIn := ← Codec.flag.readAt members "ever_logged_in"
      daylightSavings := ← Codec.flag.readAt members "daylight_savings"
      gendered := ← Codec.flag.readAt members "gendered"
      clock := ← Codec.word.readAt members "seconds_since_epoch" }

end LoginFlags

end ViewerLogin
