import ClickGrant.Component.Kind

/-!
# Labels

Each kind of component accepts its own enumerated texts and icons, so a save text on a location
component cannot be written down. A label left out is not shown.
-/
set_option autoImplicit false

namespace ClickGrant

/-- Texts of a location component. -/
inductive LocationText where
  | currentLocation | addLocation | selectLocation | shareLocation | sendLocation | locating
  | location | sendCurrentLocation | relocation | punchIn | currentPosition
  deriving DecidableEq, Repr

/-- Icons of a location component. -/
inductive LocationIcon where
  | filled | line
  deriving DecidableEq, Repr

/-- Texts of a paste component. -/
inductive PasteText where
  | paste
  deriving DecidableEq, Repr

/-- Icons of a paste component. -/
inductive PasteIcon where
  | line
  deriving DecidableEq, Repr

/-- Texts of a save component. -/
inductive SaveText where
  | download | downloadFile | save | saveImage | saveFile | downloadAndShare | receive
  | continueToReceive
  deriving DecidableEq, Repr

/-- Icons of a save component. -/
inductive SaveIcon where
  | filled | line
  deriving DecidableEq, Repr

def LocationText.all : List LocationText :=
  [.currentLocation, .addLocation, .selectLocation, .shareLocation, .sendLocation, .locating,
   .location, .sendCurrentLocation, .relocation, .punchIn, .currentPosition]

def LocationText.name : LocationText → String
  | .currentLocation => "current_location"
  | .addLocation => "add_location"
  | .selectLocation => "select_location"
  | .shareLocation => "share_location"
  | .sendLocation => "send_location"
  | .locating => "locating"
  | .location => "location"
  | .sendCurrentLocation => "send_current_location"
  | .relocation => "relocation"
  | .punchIn => "punch_in"
  | .currentPosition => "current_position"

def LocationIcon.all : List LocationIcon := [.filled, .line]

def LocationIcon.name : LocationIcon → String
  | .filled => "filled"
  | .line => "line"

def PasteText.all : List PasteText := [.paste]

def PasteText.name : PasteText → String
  | .paste => "paste"

def PasteIcon.all : List PasteIcon := [.line]

def PasteIcon.name : PasteIcon → String
  | .line => "line"

def SaveText.all : List SaveText :=
  [.download, .downloadFile, .save, .saveImage, .saveFile, .downloadAndShare, .receive,
   .continueToReceive]

def SaveText.name : SaveText → String
  | .download => "download"
  | .downloadFile => "download_file"
  | .save => "save"
  | .saveImage => "save_image"
  | .saveFile => "save_file"
  | .downloadAndShare => "download_and_share"
  | .receive => "receive"
  | .continueToReceive => "continue_to_receive"

def SaveIcon.all : List SaveIcon := [.filled, .line]

def SaveIcon.name : SaveIcon → String
  | .filled => "filled"
  | .line => "line"

/-- The member of an enumeration with a name. -/
def named? {α : Type} (all : List α) (name : α → String) (s : String) : Option α :=
  all.find? fun a => name a = s

/-- A kind with its text and icon. -/
inductive Labels where
  | location (text : Option LocationText) (icon : Option LocationIcon)
  | paste (text : Option PasteText) (icon : Option PasteIcon)
  | save (text : Option SaveText) (icon : Option SaveIcon)
  deriving DecidableEq, Repr

namespace Labels

def kind : Labels → Kind
  | .location .. => .location
  | .paste .. => .paste
  | .save .. => .save

def hasText : Labels → Bool
  | .location text _ => text.isSome
  | .paste text _ => text.isSome
  | .save text _ => text.isSome

def hasIcon : Labels → Bool
  | .location _ icon => icon.isSome
  | .paste _ icon => icon.isSome
  | .save _ icon => icon.isSome

/-- The name of the text shown. -/
def textName : Labels → Option String
  | .location text _ => text.map LocationText.name
  | .paste text _ => text.map PasteText.name
  | .save text _ => text.map SaveText.name

/-- The name of the icon shown. -/
def iconName : Labels → Option String
  | .location _ icon => icon.map LocationIcon.name
  | .paste _ icon => icon.map PasteIcon.name
  | .save _ icon => icon.map SaveIcon.name

end Labels

end ClickGrant
