/-
This file names the attributes of a file that a query can test.
-/

namespace FileSearch

/-- This type lists the textual attributes in the order in which a query tests them. -/
inductive Field where
  | name
  | mimeType
  | fullText
  | parentId
  | owner
  deriving DecidableEq

/-- This type lists the yes-or-no attributes in the order in which a query tests them. -/
inductive Flag where
  | starred
  | sharedWithMe
  | trashed
  deriving DecidableEq

namespace Field

/-- This list gives every field once, in order. -/
def all : List Field := [.name, .mimeType, .fullText, .parentId, .owner]

/-- This is the key of a field in an expression and in a summary. -/
def key : Field → String
  | .name => "name"
  | .mimeType => "mimeType"
  | .fullText => "fullText"
  | .parentId => "parentId"
  | .owner => "owner"

theorem mem_all (field : Field) : field ∈ all := by
  cases field <;> decide

end Field

namespace Flag

/-- This list gives every flag once, in order. -/
def all : List Flag := [.starred, .sharedWithMe, .trashed]

/-- This is the key of a flag in an expression, in a summary and in a query. -/
def key : Flag → String
  | .starred => "starred"
  | .sharedWithMe => "sharedWithMe"
  | .trashed => "trashed"

theorem mem_all (flag : Flag) : flag ∈ all := by
  cases flag <;> decide

end Flag

/-- This record holds one entry for each field. -/
structure FieldMap (Entry : Type) where
  name : Entry
  mimeType : Entry
  fullText : Entry
  parentId : Entry
  owner : Entry
  deriving DecidableEq

namespace FieldMap

/-- This map holds the same entry for every field. -/
def replicate {Entry : Type} (entry : Entry) : FieldMap Entry :=
  ⟨entry, entry, entry, entry, entry⟩

def get {Entry : Type} (entries : FieldMap Entry) : Field → Entry
  | .name => entries.name
  | .mimeType => entries.mimeType
  | .fullText => entries.fullText
  | .parentId => entries.parentId
  | .owner => entries.owner

def set {Entry : Type} (entries : FieldMap Entry) (field : Field) (entry : Entry) :
    FieldMap Entry :=
  match field with
  | .name => { entries with name := entry }
  | .mimeType => { entries with mimeType := entry }
  | .fullText => { entries with fullText := entry }
  | .parentId => { entries with parentId := entry }
  | .owner => { entries with owner := entry }

@[simp]
theorem get_replicate {Entry : Type} (entry : Entry) (field : Field) :
    (replicate entry).get field = entry := by
  cases field <;> rfl

/-- The update changes the entry of its own field only. -/
@[simp]
theorem get_set {Entry : Type} (entries : FieldMap Entry) (written read : Field)
    (entry : Entry) :
    (entries.set written entry).get read = if written = read then entry else entries.get read := by
  cases written <;> cases read <;> rfl

/-- The entries determine the map. -/
theorem ext_get {Entry : Type} {first second : FieldMap Entry}
    (same : ∀ field, first.get field = second.get field) : first = second := by
  cases first
  cases second
  have name := same .name
  have mimeType := same .mimeType
  have fullText := same .fullText
  have parentId := same .parentId
  have owner := same .owner
  simp_all [get]

end FieldMap

/-- This record holds one entry for each flag. -/
structure FlagMap (Entry : Type) where
  starred : Entry
  sharedWithMe : Entry
  trashed : Entry
  deriving DecidableEq

namespace FlagMap

/-- This map holds the same entry for every flag. -/
def replicate {Entry : Type} (entry : Entry) : FlagMap Entry :=
  ⟨entry, entry, entry⟩

def get {Entry : Type} (entries : FlagMap Entry) : Flag → Entry
  | .starred => entries.starred
  | .sharedWithMe => entries.sharedWithMe
  | .trashed => entries.trashed

def set {Entry : Type} (entries : FlagMap Entry) (flag : Flag) (entry : Entry) :
    FlagMap Entry :=
  match flag with
  | .starred => { entries with starred := entry }
  | .sharedWithMe => { entries with sharedWithMe := entry }
  | .trashed => { entries with trashed := entry }

@[simp]
theorem get_replicate {Entry : Type} (entry : Entry) (flag : Flag) :
    (replicate entry).get flag = entry := by
  cases flag <;> rfl

/-- The update changes the entry of its own flag only. -/
@[simp]
theorem get_set {Entry : Type} (entries : FlagMap Entry) (written read : Flag)
    (entry : Entry) :
    (entries.set written entry).get read = if written = read then entry else entries.get read := by
  cases written <;> cases read <;> rfl

/-- The entries determine the map. -/
theorem ext_get {Entry : Type} {first second : FlagMap Entry}
    (same : ∀ flag, first.get flag = second.get flag) : first = second := by
  cases first
  cases second
  have starred := same .starred
  have sharedWithMe := same .sharedWithMe
  have trashed := same .trashed
  simp_all [get]

end FlagMap

end FileSearch
