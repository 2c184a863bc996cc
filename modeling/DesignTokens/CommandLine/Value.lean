import DesignTokens.Depth
import DesignTokens.Text.Blank

/-!
Values of options that are more than a text: the widths of an input (`1=768:1439`), the label of an
input (`1=High Contrast`) and the targets of a property (`inset-x=left,right`). What is wrong with a
value is looked for from its outer signs inwards, and then from left to right.
-/

namespace DesignTokens

/-- What is wrong with the value of an option. -/
inductive ValueFault where
  | widthsWithoutIndex (value : Text)
  | widthsWithoutColon (bounds : Text)
  | badWidth (width : Text) (fault : NatFault)
  | badIndex (index : Text) (fault : NatFault)
  | labelWithoutIndex (value : Text)
  | targetsWithoutName (value : Text)
  | emptyMapping (value : Text)
  | badDepth (value : Text)
  | badCount (fault : NatFault)
  deriving DecidableEq

/-- The wording of the fault. -/
def ValueFault.message : ValueFault → Text
  | .widthsWithoutIndex value => "expected INDEX=MIN:MAX, got '" ++ value ++ "'"
  | .widthsWithoutColon bounds => "expected MIN:MAX, got '" ++ bounds ++ "'"
  | .badWidth width fault => "bad width '" ++ width ++ "': " ++ fault.message
  | .badIndex index fault => "bad index '" ++ index ++ "': " ++ fault.message
  | .labelWithoutIndex value => "expected INDEX=LABEL, got '" ++ value ++ "'"
  | .targetsWithoutName value => "expected NAME=TARGET[,TARGET...], got '" ++ value ++ "'"
  | .emptyMapping value => "mapping '" ++ value ++ "' needs a name and at least one target"
  | .badDepth value => Depth.refusal value
  | .badCount fault => fault.message

/-- The widths of the input at an index. -/
structure WidthSetting where
  index : UInt64
  minWidth : Option UInt32
  maxWidth : Option UInt32
  deriving DecidableEq

/-- The label of the input at an index. -/
structure LabelSetting where
  index : UInt64
  label : Text
  deriving DecidableEq

/-- The targets of a property. -/
structure MappingSetting where
  name : Text
  targets : List Text
  deriving DecidableEq

/-- A count of sixty-four bits. -/
def readCount (t : Text) : Except NatFault UInt64 := UInt64.ofNat <$> readNat UInt64.size t

/-- An index with blanks around it. -/
def readIndex (t : Text) : Except ValueFault UInt64 :=
  (readCount (Text.trim t)).mapError (.badIndex t)

/-- A width with blanks around it, or none if there are only blanks. -/
def readWidth (t : Text) : Except ValueFault (Option UInt32) :=
  if Text.isAllBlank t then .ok none
  else ((some ∘ UInt32.ofNat) <$> readNat UInt32.size (Text.trim t)).mapError (.badWidth t)

/-- The widths of an input, either of which may be left out. -/
def WidthSetting.read (t : Text) : Except ValueFault WidthSetting := do
  let some (index, bounds) := Text.cut? '=' t | .error (.widthsWithoutIndex t)
  let some (min, max) := Text.cut? ':' bounds | .error (.widthsWithoutColon bounds)
  let index ← readIndex index
  let minWidth ← readWidth min
  let maxWidth ← readWidth max
  return ⟨index, minWidth, maxWidth⟩

/-- The label of an input, without the blanks around it. -/
def LabelSetting.read (t : Text) : Except ValueFault LabelSetting := do
  let some (index, label) := Text.cut? '=' t | .error (.labelWithoutIndex t)
  return ⟨← readIndex index, Text.trim label⟩

/-- The targets of a property; blank targets are passed over, but one has to be left. -/
def MappingSetting.read (t : Text) : Except ValueFault MappingSetting := do
  let some (name, targets) := Text.cut? '=' t | .error (.targetsWithoutName t)
  let targets := ((Text.splitOn ',' targets).map Text.trim).filter fun target => !target.isEmpty
  if Text.isAllBlank name || targets.isEmpty then .error (.emptyMapping t)
  else return ⟨Text.trim name, targets⟩

/-- A depth. -/
def Depth.read (t : Text) : Except ValueFault Depth :=
  match Depth.read? t with
  | some depth => .ok depth
  | none => .error (.badDepth t)

end DesignTokens
