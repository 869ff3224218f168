import Mvr.Checked.Basic
import Mvr.PtrMap.Basic

/-!
# The factories of CXStreamer

A factory class hands out one instance, which `getInstance` creates at its first call.  A created
instance calls `init`, which hands every element descriptor of the program to the instance of the
factory the descriptor names; this looks the factory up, and so may create it and start the same
pass again from the beginning of the list.

A factory class is known by a number, its instance by the number of the class, and the function
that creates an element by a number of its own.
-/

namespace Mvr.Factory

/-- `FactoryDescriptor`; `init` is the result of the callback, `none` for a null pointer. -/
structure FactoryDescriptor where
  factoryName : String
  init : Option Int32
  getFactoryInstance : ℕ
  deriving DecidableEq, Repr

/-- `ElementDescriptor`; `init` is the result of the callback, `none` for a null pointer. -/
structure ElementDescriptor where
  factoryName : String
  elementClassName : String
  init : Option Int32
  createElementInstance : ℕ
  deriving DecidableEq, Repr

/-- `descriptor->init && 0 != descriptor->init()` is false. -/
def InitSucceeds : Option Int32 → Prop
  | none => True
  | some r => r = 0

instance : DecidablePred InitSucceeds := fun i => by
  cases i <;> unfold InitSucceeds <;> infer_instance

/-- The static variables: those of `factory.cpp`, and the `_instance` of every factory class with
its `elemDescGetFuncPtrMap`.  `initCalls` records the element descriptors whose `init` was called,
in the order of the calls. -/
structure Statics where
  factoryMap : PtrMap FactoryDescriptor
  elemDescList : List ElementDescriptor
  isInit : Bool
  instances : ℕ → Option (PtrMap ElementDescriptor)
  initCalls : List ElementDescriptor

/-- The static variables before the static initialisers run. -/
def Statics.initial : Statics :=
  ⟨PtrMap.empty, [], false, fun _ => none, []⟩

/-! ### Registration -/

/-- `registerFactory`, with its result. -/
def registerFactory (s : Statics) (descriptor : FactoryDescriptor) : Statics × Int32 :=
  if InitSucceeds descriptor.init then
    ({ s with factoryMap := s.factoryMap.insert descriptor.factoryName descriptor }, 0)
  else (s, -1)

/-- `addElementDesc` of one descriptor. -/
def addElementDesc (s : Statics) (descriptor : ElementDescriptor) : Statics :=
  { s with elemDescList := s.elemDescList ++ [descriptor] }

/-- `addElementDesc` of an array of descriptors. -/
def addElementDescs (s : Statics) (descriptors : List ElementDescriptor) : Statics :=
  descriptors.foldl addElementDesc s

/-- A static initialiser: `REGISTER_FACTORY` or `REGISTER_ELEMENT`. -/
inductive StaticInit where
  | registerFactory (factoryDescriptor : FactoryDescriptor)
  | registerElement (elementDescriptors : List ElementDescriptor)
  deriving DecidableEq, Repr

/-- What one static initialiser does. -/
def StaticInit.run (s : Statics) : StaticInit → Statics
  | .registerFactory d => (Factory.registerFactory s d).1
  | .registerElement ds => addElementDescs s ds

/-- The static variables once the static initialisers ran. -/
def afterStaticInit (regs : List StaticInit) : Statics := regs.foldl StaticInit.run .initial

/-! ### The instances -/

/-- The call of the callback `init`, if there is one. -/
def Statics.callInit (s : Statics) (descriptor : ElementDescriptor) : Statics :=
  if descriptor.init.isSome then { s with initCalls := s.initCalls ++ [descriptor] } else s

/-- `registerElement` on `this`, `none` for a null pointer. -/
def registerElement (s : Statics) (this : Option ℕ) (descriptor : ElementDescriptor) :
    Checked Statics :=
  let s := s.callInit descriptor
  -- the callback has run by now, whether or not the name is still free
  if InitSucceeds descriptor.init then
    match this with
    -- only the insertion dereferences `this`
    | none => .error .badPointer
    | some this => .ok { s with
        instances := Function.update s.instances this
          ((s.instances this).map fun m => m.insert descriptor.elementClassName descriptor) }
  else .ok s

/-- `getFactoryInstanceByName`, given the `getInstance` of the factory classes. -/
def getFactoryInstanceByName (getInstance : Statics → ℕ → Checked Statics) (s : Statics)
    (factoryName : String) : Checked (Statics × Option ℕ) :=
  let s' := { s with factoryMap := (s.factoryMap.index factoryName).1 }
  match (s.factoryMap.index factoryName).2 with
  | none => .ok (s', none)
  | some descriptor => do
    let s'' ← getInstance s' descriptor.getFactoryInstance
    .ok (s'', some descriptor.getFactoryInstance)

/-- The body of the loop of `init`. -/
def initStep (getInstance : Statics → ℕ → Checked Statics) (s : Statics)
    (descriptor : ElementDescriptor) : Checked Statics := do
  let (s, factory) ← getFactoryInstanceByName getInstance s descriptor.factoryName
  registerElement s factory descriptor

/-- `init`, given the `getInstance` of the factory classes. -/
def init (getInstance : Statics → ℕ → Checked Statics) (s : Statics) : Checked Statics :=
  if s.isInit then .ok s
  else do
    let s ← s.elemDescList.foldlM (initStep getInstance) s
    .ok { s with isInit := true }

/-- `_instance = new FACTORY_CLASS`. -/
def create (s : Statics) (factoryClass : ℕ) : Statics :=
  { s with instances := Function.update s.instances factoryClass (some PtrMap.empty) }

/-- `getInstance` of a factory class, to a bounded depth of nested calls. -/
def getInstance : ℕ → Statics → ℕ → Checked Statics
  | 0, _, _ => .error .outOfFuel
  | fuel + 1, s, factoryClass =>
    match s.instances factoryClass with
    | some _ => .ok s
    -- the instance is stored first, so that a nested call finds it
    | none => init (getInstance fuel) (create s factoryClass)

/-- `createElementByName` on the instance `this`; the result is the function that creates the
element, `none` where the code returns a null pointer. -/
def createElementByName (s : Statics) (this : ℕ) (elementClassName : String) :
    Checked (Statics × Option ℕ) :=
  match s.instances this with
  | none => .error .badPointer
  | some m =>
    .ok ({ s with instances :=
            Function.update s.instances this (some (m.index elementClassName).1) },
      (m.index elementClassName).2.map ElementDescriptor.createElementInstance)

/-! ### Lookups after the static initialisers -/

/-- The program looks up a list of factory names, one after the other. -/
def lookups (fuel : ℕ) (s : Statics) (names : List String) : Checked Statics :=
  names.foldlM (fun s name => do
    let (s, _) ← getFactoryInstanceByName (getInstance fuel) s name
    .ok s) s

/-- The descriptor an instance holds for a class name. -/
def Statics.elemDesc (s : Statics) (factoryClass : ℕ) (elementClassName : String) :
    Option ElementDescriptor :=
  (s.instances factoryClass).bind fun m => m.pointer elementClassName

/-! ### What the registrations stand for -/

/-- The factory descriptors that are registered, in order. -/
def factoryDescs (regs : List StaticInit) : List FactoryDescriptor :=
  regs.filterMap fun
    | .registerFactory d => some d
    | .registerElement _ => none

/-- The element descriptors that are registered, in order. -/
def elementDescs (regs : List StaticInit) : List ElementDescriptor :=
  regs.flatMap fun
    | .registerFactory _ => []
    | .registerElement ds => ds

/-- The first registration of a factory name whose `init` succeeds. -/
def factoryOf (regs : List StaticInit) (factoryName : String) : Option FactoryDescriptor :=
  (factoryDescs regs).find? fun d => d.factoryName = factoryName ∧ InitSucceeds d.init

/-- The factory class registered under a name. -/
def classOf (regs : List StaticInit) (factoryName : String) : Option ℕ :=
  (factoryOf regs factoryName).map FactoryDescriptor.getFactoryInstance

/-- The descriptor belongs to the factory class, defines the class name, and its `init`
succeeds. -/
def Defines (owner : String → Option ℕ) (factoryClass : ℕ) (elementClassName : String)
    (d : ElementDescriptor) : Prop :=
  owner d.factoryName = some factoryClass ∧ d.elementClassName = elementClassName ∧
    InitSucceeds d.init

instance (owner : String → Option ℕ) (factoryClass : ℕ) (elementClassName : String) :
    DecidablePred (Defines owner factoryClass elementClassName) := fun d => by
  unfold Defines
  infer_instance

/-- The first descriptor of a list that defines a class name of a factory class. -/
def firstDesc (owner : String → Option ℕ) (ds : List ElementDescriptor) (factoryClass : ℕ)
    (elementClassName : String) : Option ElementDescriptor :=
  ds.find? fun d => Defines owner factoryClass elementClassName d

end Mvr.Factory
