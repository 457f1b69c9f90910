import ViewerLogin.Response.Friend
import ViewerLogin.Response.Home
import ViewerLogin.Response.Inventory
import ViewerLogin.Text.LowerCase

/-!
# Accounts

An account has a name of two words, a password and the things its agent owns. Names are
compared without regard to case and to blanks around them.
-/

namespace ViewerLogin

structure Account where
  first : String
  last : String
  passwd : String
  agent : Uuid
  disabled : Bool
  /-- Without a home of its own an agent lives where the grid says. -/
  home : Option Home
  inventoryRoot : Folder
  inventorySkeleton : List Folder
  buddies : List Buddy
  gestures : List Gesture
  everLoggedIn : Bool
  deriving DecidableEq, Repr

/-! ## Standard folders -/

inductive StandardFolder where
  | textures
  | clothing
  | objects
  | notecards
  | bodyParts
  | trash
  | landmarks
  | gestures
  deriving DecidableEq, Repr

namespace StandardFolder

def all : List StandardFolder := [
  .textures, .clothing, .objects, .notecards, .bodyParts, .trash, .landmarks, .gestures]

def name : StandardFolder → String
  | .textures => "Textures"
  | .clothing => "Clothing"
  | .objects => "Objects"
  | .notecards => "Notecards"
  | .bodyParts => "Body Parts"
  | .trash => "Trash"
  | .landmarks => "Landmarks"
  | .gestures => "Gestures"

def assetType : StandardFolder → Int32
  | .textures => 0
  | .clothing => 5
  | .objects => 6
  | .notecards => 7
  | .bodyParts => 13
  | .trash => 14
  | .landmarks => 3
  | .gestures => 21

end StandardFolder

namespace Account

/-! ## New accounts -/

structure Identifiers where
  agent : Uuid
  root : Uuid
  standard : StandardFolder → Uuid

def rootName : String := "My Inventory"

def rootType : Int32 := 8

def rootFolder (identifiers : Identifiers) : Folder :=
  .of identifiers.root .nil rootName rootType 1

def standardFolder (identifiers : Identifiers) (folder : StandardFolder) : Folder :=
  .of (identifiers.standard folder) identifiers.root folder.name folder.assetType 1

def new (identifiers : Identifiers) (first last passwd : String) : Account where
  first := first
  last := last
  passwd := passwd
  agent := identifiers.agent
  disabled := false
  home := none
  inventoryRoot := rootFolder identifiers
  inventorySkeleton :=
    rootFolder identifiers :: StandardFolder.all.map (standardFolder identifiers)
  buddies := []
  gestures := []
  everLoggedIn := false

/-! ## Names -/

def foldName (name : String) : String := Text.lowerCase (Text.trim name)

def keyOf (first last : String) : String := foldName first ++ " " ++ foldName last

def key (account : Account) : String := keyOf account.first account.last

inductive NameFault where
  | blank
  | severalWords (name : String)
  deriving DecidableEq, Repr

def faultOf? (name : String) : Option NameFault :=
  if Text.isBlankText name then some .blank
  else if Text.isWord name then none
  else some (.severalWords name)

def nameFault? (account : Account) : Option NameFault :=
  (faultOf? account.first).or (faultOf? account.last)

end Account

end ViewerLogin
