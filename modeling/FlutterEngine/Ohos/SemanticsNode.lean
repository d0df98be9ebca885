import FlutterEngine.Std.Machine
import Mathlib.Data.List.Nodup

/-!
# Semantics nodes of the OHOS accessibility tree

`lib/ui/semantics/semantics_node.h` and `ohos_semantics_node.h`. Geometry,
scrolling, text attributes and the element info handed to the platform are left
out: neither the links between the nodes nor the focus depend on them.
-/

namespace FlutterEngine.Ohos

/-- `SemanticsFlags`, by the position of their bit. -/
inductive SemanticsFlags where
  | hasCheckedState | isChecked | isSelected | isButton | isTextField | isFocused
  | hasEnabledState | isEnabled | isInMutuallyExclusiveGroup | isHeader | isObscured
  | scopesRoute | namesRoute | isHidden | isImage | isLiveRegion | hasToggledState | isToggled
  | hasImplicitScrolling | isMultiline | isReadOnly | isFocusable | isLink | isSlider
  | isKeyboardKey | isCheckStateMixed | hasExpandedState | isExpanded
deriving DecidableEq, Repr

def SemanticsFlags.bit (flag : SemanticsFlags) : BitVec 32 := 1#32 <<< flag.ctorIdx

/-- `SemanticsAction`, by the position of their bit. -/
inductive SemanticsAction where
  | tap | longPress | scrollLeft | scrollRight | scrollUp | scrollDown | increase | decrease
  | showOnScreen | moveCursorForwardByCharacter | moveCursorBackwardByCharacter | setSelection
  | copy | cut | paste | didGainAccessibilityFocus | didLoseAccessibilityFocus | customAction
  | dismiss | moveCursorForwardByWord | moveCursorBackwardByWord | setText
deriving DecidableEq, Repr

def SemanticsAction.bit (action : SemanticsAction) : BitVec 32 := 1#32 <<< action.ctorIdx

structure SemanticsNode where
  id : Int := 0
  flags : BitVec 32 := 0
  actions : BitVec 32 := 0
  platformViewId : Int := -1
  label : String := ""
  hint : String := ""
  value : String := ""
  childrenInTraversalOrder : List Int := []
deriving DecidableEq, Repr

namespace SemanticsNode

variable (node : SemanticsNode)

def hasFlag (flag : SemanticsFlags) : Bool := node.flags &&& flag.bit != 0

def kMinPlatformViewId : Int := -1

def isPlatformViewNode : Bool := node.platformViewId > kMinPlatformViewId

def kFocusableFlags : BitVec 32 :=
  [SemanticsFlags.hasCheckedState, .isChecked, .isSelected, .isTextField, .isFocused,
    .hasEnabledState, .isEnabled, .isInMutuallyExclusiveGroup, .hasToggledState, .isToggled,
    .hasToggledState, .isFocusable, .isSlider].foldl (fun mask flag => mask ||| flag.bit) 0

def kScrollableAction : BitVec 32 :=
  [SemanticsAction.scrollLeft, .scrollRight, .scrollUp, .scrollDown].foldl
    (fun mask action => mask ||| action.bit) 0

def isVisible : Bool := !node.hasFlag .isHidden

def isFocused : Bool := node.hasFlag .isFocused

def isFocusable : Bool :=
  if node.hasFlag .scopesRoute then false
  else if node.hasFlag .isFocusable then true
  else if node.isPlatformViewNode then true
  else if node.flags &&& kFocusableFlags != 0 then true
  else if node.actions &&& ~~~kScrollableAction != 0 then true
  else !node.label.isEmpty || !node.value.isEmpty || !node.hint.isEmpty

end SemanticsNode

/-- `SemanticsNodeUpdates`: the keys of the map are the ids of the nodes. The
order of the list is the order in which the map is walked. -/
structure SemanticsNodeUpdates where
  nodes : List SemanticsNode
  nodup : (nodes.map (·.id)).Nodup

/-- The address of an allocated node; addresses are not used again. -/
abbrev NodeRef := Nat

/-- A node as the tree keeps it, with the pointers to its neighbours. -/
structure SemanticsNodeExtend extends SemanticsNode where
  /-- Described by an update, and not only named as a child. -/
  isExist : Bool := false
  focusableInSubtree : Bool := false
  isAccessibilityFocued : Bool := false
  parentNode : Option NodeRef := none
  previousNode : Option NodeRef := none
  nextNode : Option NodeRef := none
  childrenInTraversalOrderList : List NodeRef := []
deriving DecidableEq, Repr

/-- Takes over the description and leaves the pointers alone. -/
def SemanticsNodeExtend.updateWithNode (self : SemanticsNodeExtend) (node : SemanticsNode) :
    SemanticsNodeExtend :=
  { self with
    toSemanticsNode := node
    isExist := true }

end FlutterEngine.Ohos
