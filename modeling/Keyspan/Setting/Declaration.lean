import Keyspan.Setting.Convert

/-!
# Declared settings

A setting is declared with a key, the kind its values are read as, a description and, if it has
one, a default value. The default is a value of any kind: it is never converted. Two declarations
are the same setting when their keys agree and their defaults are the same by value; kind and
description do not count.
-/

namespace Keyspan.Setting

/-- A declared setting (`ConfigOption`). The absent value stands for "no default". -/
structure Declaration where
  key : String
  kind : Kind
  description : String
  fallback : Value
  named : key ≠ ""

namespace Declaration

/-- Build a setting; without a key there is none. -/
def build (key : String) (kind : Kind) (description : String) (fallback : Value) :
    Except Failure Declaration :=
  if h : key ≠ "" then .ok ⟨key, kind, description, fallback, h⟩ else .error .keyMissing

/-- Declare a setting that has neither description nor default yet (`ConfigOptions.key`). -/
def declare (key : String) (kind : Kind) : Except Failure Declaration :=
  if h : key ≠ "" then .ok ⟨key, kind, "", .missing, h⟩ else .error .keyBlank

/-- The same setting with another default (`default_value`). -/
def withFallback (d : Declaration) (fallback : Value) : Declaration :=
  { d with fallback := fallback }

/-- The same setting with another description (`with_description`). -/
def withDescription (d : Declaration) (description : String) : Declaration :=
  { d with description := description }

/-- Whether the setting has a default (`has_default_value`). -/
def hasFallback (d : Declaration) : Bool := d.fallback.kind != .missing

/-- **Whether two declarations are the same setting (`__eq__`).** -/
def same (d e : Declaration) : Bool := d.key == e.key && d.fallback.same e.fallback

/-- A setting has a hash unless its default is a list or a record (`__hash__`). -/
def checkHashable (d : Declaration) : Except Failure Unit :=
  match d.fallback.kind with
  | .list => .error (.notHashable .list)
  | .record => .error (.notHashable .record)
  | _ => .ok ()

/-- A setting in a message (`__str__`): key and default. -/
def shown (d : Declaration) : Except Failure String :=
  d.fallback.shown.map fun s => "key: '" ++ d.key ++ "'; default_value: " ++ s

end Declaration

end Keyspan.Setting
