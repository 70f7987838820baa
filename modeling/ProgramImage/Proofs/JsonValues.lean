import ProgramImage.Json.Reader
import ProgramImage.Proofs.Outcome

/-!
# Values in a text

A value can be passed over when nothing breaks off in it. It can be read when also its numbers are
in range, its texts and keys are texts, and its arrays and objects do not nest too deep.

## Main definitions

* `Node.IsValue` and `Node.IsProper` are the trees of the two kinds of values.
* `Node.depth` is the number of arrays and objects that stand in each other.
* `Origin.Admits` says whether a value of a depth may stand at a place.

## Main statements

* `Node.skip_of_isValue` passes over every value.
* `Node.toJson_of_isProper` reads every proper value of which the nesting fits.
* `Node.skip_of_toJson` passes over what can be read.
-/

namespace ProgramImage

/-! ### Nesting -/

namespace Node

mutual

/-- The number of arrays and objects that stand in each other. -/
def depth : Node → Nat
  | array items _ => depthOfItems items + 1
  | object members _ => depthOfMembers members + 1
  | _ => 0

def depthOfItems : List Node → Nat
  | [] => 0
  | item :: rest => max item.depth (depthOfItems rest)

def depthOfMembers : Members → Nat
  | [] => 0
  | (_, value) :: rest => max value.depth (depthOfMembers rest)

end

theorem depth_le_of_mem_items {items : List Node} {item : Node} (h : item ∈ items) :
    item.depth ≤ depthOfItems items := by
  induction items with
  | nil => cases h
  | cons first rest ih =>
    rw [depthOfItems]
    rcases List.mem_cons.mp h with rfl | hrest
    · exact Nat.le_max_left _ _
    · exact Nat.le_trans (ih hrest) (Nat.le_max_right _ _)

theorem depth_le_of_mem_members {members : Members} {member : Except Fault String × Node}
    (h : member ∈ members) : member.2.depth ≤ depthOfMembers members := by
  induction members with
  | nil => cases h
  | cons first rest ih =>
    rw [depthOfMembers]
    rcases List.mem_cons.mp h with rfl | hrest
    · exact Nat.le_max_left _ _
    · exact Nat.le_trans (ih hrest) (Nat.le_max_right _ _)

end Node

namespace Origin

/-- Whether a value of a depth may stand here. Less than 128 levels may nest in a text, and any
    number in a value that is complete already. -/
def Admits : Origin → Nat → Prop
  | text levels, depth => depth < levels
  | value, _ => True

/-- The origin of what a container holds, if it may stand here at all. -/
def inside : Origin → Origin
  | text levels => text (levels - 1)
  | value => value

theorem inside_of_enter {origin deeper : Origin} (h : origin.enter = .ok deeper) :
    deeper = origin.inside := by
  cases origin with
  | text levels =>
    rw [enter] at h
    split at h
    · cases h
    · exact (Except.ok.inj h).symm
  | value => exact (Except.ok.inj h).symm

/-- A container may stand where its content leaves a level. -/
theorem enter_of_admits {origin : Origin} {depth : Nat} (h : origin.Admits (depth + 1)) :
    origin.enter = .ok origin.inside ∧ origin.inside.Admits depth := by
  cases origin with
  | text levels =>
    have hlevels : depth + 1 < levels := h
    have hdeep : ¬levels ≤ 1 := by omega
    exact ⟨if_neg hdeep, Nat.lt_sub_of_add_lt hlevels⟩
  | value => exact ⟨rfl, trivial⟩

theorem Admits.mono {origin : Origin} {depth deeper : Nat} (h : origin.Admits deeper)
    (hle : depth ≤ deeper) : origin.Admits depth := by
  cases origin with
  | text levels => exact Nat.lt_of_le_of_lt hle h
  | value => trivial

end Origin

/-! ### Trees of values -/

namespace Node

theorem ofMembers_eq_map (members : List (String × Json)) :
    ofMembers members = members.map fun member => (.ok member.1, ofJson member.2) := by
  induction members with
  | nil => rfl
  | cons member rest ih => rw [ofMembers, ih, List.map_cons]

theorem eq_of_mem_ofMembers {members : List (String × Json)} {member : Except Fault String × Node}
    (h : member ∈ ofMembers members) :
    ∃ entry ∈ members, (.ok entry.1, ofJson entry.2) = member :=
  List.mem_map.mp (ofMembers_eq_map members ▸ h)

/-! ### Values -/

/-- A tree in which nothing breaks off. Its numbers may be out of range, and its texts and keys may
    be no texts. -/
inductive IsValue : Node → Prop
  | null : IsValue null
  | bool (value : Bool) : IsValue (bool value)
  | number (value : Except Fault Number) : IsValue (number value)
  | string (value : Except Fault String) : IsValue (string value)
  | array {items : List Node} (hitems : ∀ item ∈ items, IsValue item) : IsValue (array items none)
  | object {members : Members} (hmembers : ∀ member ∈ members, IsValue member.2) :
      IsValue (object members none)

/-- A tree without a fault. -/
inductive IsProper : Node → Prop
  | null : IsProper null
  | bool (value : Bool) : IsProper (bool value)
  | number (value : Number) : IsProper (number (.ok value))
  | string (value : String) : IsProper (string (.ok value))
  | array {items : List Node} (hitems : ∀ item ∈ items, IsProper item) : IsProper (array items none)
  | object {members : Members} (hkeys : ∀ member ∈ members, ∃ key, member.1 = .ok key)
      (hmembers : ∀ member ∈ members, IsProper member.2) : IsProper (object members none)

theorem IsProper.isValue {node : Node} (h : node.IsProper) : node.IsValue := by
  induction h with
  | null => exact .null
  | bool value => exact .bool value
  | number value => exact .number _
  | string value => exact .string _
  | array _ ih => exact .array ih
  | object _ _ ih => exact .object ih

mutual

/-- The tree of a complete value has no fault. -/
theorem isProper_ofJson : ∀ json : Json, (ofJson json).IsProper
  | .null => .null
  | .bool b => .bool b
  | .number n => .number n
  | .string s => .string s
  | .array items => .array (isProper_ofItems items)
  | .object members => by
    refine .object (fun member hmember => ?_) (isProper_ofMembers members)
    obtain ⟨entry, -, rfl⟩ := eq_of_mem_ofMembers hmember
    exact ⟨entry.1, rfl⟩

theorem isProper_ofItems : ∀ items : List Json, ∀ node ∈ ofItems items, node.IsProper
  | [] => nofun
  | item :: rest =>
    List.forall_mem_cons.mpr ⟨isProper_ofJson item, isProper_ofItems rest⟩

theorem isProper_ofMembers : ∀ members : List (String × Json),
    ∀ member ∈ ofMembers members, member.2.IsProper
  | [] => nofun
  | (_, value) :: rest =>
    List.forall_mem_cons.mpr ⟨isProper_ofJson value, isProper_ofMembers rest⟩

end

/-! ### Passing over values -/

theorem skipItems_of_forall {items : List Node} (h : ∀ item ∈ items, item.skip = .ok ()) :
    skipItems items = .ok () := by
  induction items with
  | nil => rfl
  | cons item rest ih =>
    obtain ⟨hitem, hrest⟩ := List.forall_mem_cons.mp h
    rw [skipItems, hitem, Except.ok_bind, ih hrest]

theorem skipMembers_of_forall {members : Members}
    (h : ∀ member ∈ members, member.2.skip = .ok ()) : skipMembers members = .ok () := by
  induction members with
  | nil => rfl
  | cons member rest ih =>
    obtain ⟨hmember, hrest⟩ := List.forall_mem_cons.mp h
    rw [skipMembers, hmember, Except.ok_bind, ih hrest]

/-- A value can be passed over, however deep it nests. -/
theorem skip_of_isValue {node : Node} (h : node.IsValue) : node.skip = .ok () := by
  induction h with
  | null | bool | number | string => rfl
  | array _ ih =>
    rw [skip, skipItems_of_forall ih]
    rfl
  | object _ ih =>
    rw [skip, skipMembers_of_forall ih]
    rfl

/-! ### Reading values -/

theorem toJsonItems_of_forall {origin : Origin} {items : List Node}
    (h : ∀ item ∈ items, ∃ json, item.toJson origin = .ok json) :
    ∃ values, toJsonItems origin items = .ok values := by
  induction items with
  | nil => exact ⟨[], rfl⟩
  | cons item rest ih =>
    obtain ⟨⟨first, hfirst⟩, hrest⟩ := List.forall_mem_cons.mp h
    obtain ⟨others, hothers⟩ := ih hrest
    refine ⟨first :: others, ?_⟩
    rw [toJsonItems, hfirst, Except.ok_bind, hothers]
    rfl

theorem toJsonMembers_of_forall {origin : Origin} {members : Members}
    (hkeys : ∀ member ∈ members, ∃ key, member.1 = .ok key)
    (h : ∀ member ∈ members, ∃ json, member.2.toJson origin = .ok json) :
    ∃ values, toJsonMembers origin members = .ok values := by
  induction members with
  | nil => exact ⟨[], rfl⟩
  | cons member rest ih =>
    obtain ⟨name, value⟩ := member
    obtain ⟨⟨key, rfl⟩, hrestKeys⟩ := List.forall_mem_cons.mp hkeys
    obtain ⟨⟨first, hfirst⟩, hrest⟩ := List.forall_mem_cons.mp h
    obtain ⟨others, hothers⟩ := ih hrestKeys hrest
    refine ⟨(key, first) :: others, ?_⟩
    rw [toJsonMembers, wanted, Except.ok_bind, hfirst, Except.ok_bind, hothers]
    rfl

/-- A proper value of which the nesting fits is read where any value is. -/
theorem toJson_of_isProper {node : Node} (h : node.IsProper) {origin : Origin}
    (hdepth : origin.Admits node.depth) : ∃ json, node.toJson origin = .ok json := by
  induction h generalizing origin with
  | null => exact ⟨.null, rfl⟩
  | bool value => exact ⟨.bool value, rfl⟩
  | number value => exact ⟨.number value, rfl⟩
  | string value => exact ⟨.string value, rfl⟩
  | @array items _ ih =>
    obtain ⟨henter, hinside⟩ := Origin.enter_of_admits hdepth
    obtain ⟨values, hvalues⟩ := toJsonItems_of_forall fun item hitem =>
      ih item hitem (hinside.mono (depth_le_of_mem_items hitem))
    refine ⟨.array values, ?_⟩
    rw [toJson, henter, Except.ok_bind, hvalues]
    rfl
  | @object members hkeys _ ih =>
    obtain ⟨henter, hinside⟩ := Origin.enter_of_admits hdepth
    obtain ⟨values, hvalues⟩ := toJsonMembers_of_forall hkeys fun member hmember =>
      ih member hmember (hinside.mono (depth_le_of_mem_members hmember))
    refine ⟨.ofMembers values, ?_⟩
    rw [toJson, henter, Except.ok_bind, hvalues]
    rfl

end Node

theorem passStop_of_closed {stop : Option Break} (h : closed stop = .ok ()) :
    Node.passStop stop = .ok () := by
  cases stop with
  | none => rfl
  | some stop => cases h

mutual

/-- What can be read can be passed over. -/
theorem Node.skip_of_toJson {origin : Origin} : ∀ {node : Node} {json : Json},
    node.toJson origin = .ok json → node.skip = .ok ()
  | .null, _, _ => rfl
  | .bool _, _, _ => rfl
  | .number _, _, _ => rfl
  | .string _, _, _ => rfl
  | .array items stop, json, h => by
    rw [Node.toJson] at h
    obtain ⟨inside, -, h⟩ := Except.bind_eq_ok.mp h
    obtain ⟨values, hvalues, h⟩ := Except.bind_eq_ok.mp h
    obtain ⟨_, hclosed, -⟩ := Except.bind_eq_ok.mp h
    rw [Node.skip, Node.skipItems_of_toJsonItems hvalues]
    exact passStop_of_closed hclosed
  | .object members stop, json, h => by
    rw [Node.toJson] at h
    obtain ⟨inside, -, h⟩ := Except.bind_eq_ok.mp h
    obtain ⟨values, hvalues, h⟩ := Except.bind_eq_ok.mp h
    obtain ⟨_, hclosed, -⟩ := Except.bind_eq_ok.mp h
    rw [Node.skip, Node.skipMembers_of_toJsonMembers hvalues]
    exact passStop_of_closed hclosed
  | .broken _, _, h => nomatch h

theorem Node.skipItems_of_toJsonItems {origin : Origin} : ∀ {items : List Node}
    {values : List Json}, Node.toJsonItems origin items = .ok values → Node.skipItems items = .ok ()
  | [], _, _ => rfl
  | item :: rest, values, h => by
    rw [Node.toJsonItems] at h
    obtain ⟨first, hfirst, h⟩ := Except.bind_eq_ok.mp h
    obtain ⟨others, hothers, -⟩ := Except.bind_eq_ok.mp h
    rw [Node.skipItems, Node.skip_of_toJson hfirst]
    exact Node.skipItems_of_toJsonItems hothers

theorem Node.skipMembers_of_toJsonMembers {origin : Origin} : ∀ {members : Node.Members}
    {values : List (String × Json)},
    Node.toJsonMembers origin members = .ok values → Node.skipMembers members = .ok ()
  | [], _, _ => rfl
  | (name, value) :: rest, values, h => by
    rw [Node.toJsonMembers] at h
    obtain ⟨key, -, h⟩ := Except.bind_eq_ok.mp h
    obtain ⟨first, hfirst, h⟩ := Except.bind_eq_ok.mp h
    obtain ⟨others, hothers, -⟩ := Except.bind_eq_ok.mp h
    rw [Node.skipMembers, Node.skip_of_toJson hfirst]
    exact Node.skipMembers_of_toJsonMembers hothers

end

end ProgramImage
