import SensorRelay.Config.Layer
import Mathlib.Data.List.Induction
import Mathlib.Tactic.SplitIfs

/-!
# What layers say about a setting

A setting stands in a section. Whatever sources assign to keys, it has the value that the highest of
them gives it, as long as every section is given as a table.
-/

namespace SensorRelay.Config

namespace Value

def IsTable (v : Value) : Prop :=
  ∃ ms, v = table ms

/-- What becomes of a member where a value is put. -/
def laid (old : Option Value) : Value → Value
  | table incoming => merge incoming (old.getD (table []))
  | v => v

theorem put_eq (name : String) (v node : Value) :
    put name v node = table (bindName name (laid (node.member? name) v) node.members) := by
  cases v <;> simp only [put, laid]

theorem member?_bindName (name key : String) (v node : Value) :
    (table (bindName name v node.members)).member? key =
      if key = name then some v else node.member? key := by
  split_ifs with hkey
  · rw [hkey]
    exact lookup_bindName_self name v node.members
  · exact lookup_bindName_of_ne hkey v node.members

theorem member?_put (name key : String) (v node : Value) :
    (put name v node).member? key =
      if key = name then some (laid (node.member? name) v) else node.member? key := by
  rw [put_eq, member?_bindName]

theorem isTable_put (name : String) (v node : Value) : (put name v node).IsTable :=
  ⟨_, put_eq name v node⟩

theorem isTable_merge {node : Value} (h : node.IsTable) (ms : List (String × Value)) :
    (merge ms node).IsTable := by
  induction ms generalizing node with
  | nil => rwa [merge]
  | cons m ms ih =>
    obtain ⟨name, v⟩ := m
    rw [merge]
    exact ih (isTable_put name v node)

/-- The values of a name among some members, first to last. -/
def allOf (key : String) (ms : List (String × Value)) : List Value :=
  (ms.filter (·.1 = key)).map (·.2)

theorem member?_merge (key : String) (ms : List (String × Value)) (node : Value) :
    (merge ms node).member? key =
      (allOf key ms).foldl (fun old v => some (laid old v)) (node.member? key) := by
  induction ms generalizing node with
  | nil => rw [merge]; rfl
  | cons m ms ih =>
    obtain ⟨name, v⟩ := m
    rw [merge, ih, member?_put]
    by_cases hkey : name = key
    · simp [allOf, hkey]
    · simp [allOf, hkey, Ne.symm hkey]

/-- A value with no text and no number. -/
def illegible : Value := list []

/-- What a setting can be read from: of a table or a list nothing matters. -/
def plain : Value → Value
  | table _ | list _ => illegible
  | v => v

/-- The plain value of a member where a value is put. An empty table has nothing to put. -/
def settle (old : Option Value) : Value → Value
  | table [] => old.getD illegible
  | v => v.plain

theorem plain_laid (old : Option Value) (v : Value) :
    (laid old v).plain = settle (old.map plain) v := by
  cases v with
  | table incoming =>
    cases incoming with
    | nil =>
      rw [laid, merge]
      cases old <;> rfl
    | cons m ms =>
      obtain ⟨name, v⟩ := m
      obtain ⟨ms', hms⟩ := isTable_merge (isTable_put name v (old.getD (table []))) ms
      rw [laid, merge, hms]
      rfl
  | _ => rfl

/-- What is settled by one value after the other. -/
def settled (vs : List Value) (old : Option Value) : Option Value :=
  vs.foldl (fun old v => some (settle old v)) old

theorem settled_append (vs ws : List Value) (old : Option Value) :
    settled (vs ++ ws) old = settled ws (settled vs old) :=
  List.foldl_append

theorem map_plain_foldl (vs : List Value) (old : Option Value) :
    (vs.foldl (fun old v => some (laid old v)) old).map plain = settled vs (old.map plain) := by
  induction vs generalizing old with
  | nil => rfl
  | cons v vs ih =>
    rw [List.foldl_cons, ih, Option.map_some, plain_laid]
    rfl

/-- Does a value say nothing? -/
def isVoid : Value → Bool
  | table [] => true
  | _ => false

theorem settle_of_isVoid {v : Value} (h : v.isVoid = true) (old : Option Value) :
    settle old v = old.getD illegible := by
  match v, h with
  | table [], _ => rfl

theorem settle_of_not_isVoid {v : Value} (h : v.isVoid = false) (old : Option Value) :
    settle old v = v.plain := by
  match v, h with
  | table (m :: ms), _ => rfl
  | null, _ | bool b, _ | integer n, _ | double x, _ | text s, _ | list vs, _ => rfl

/-- The last value that says something counts. -/
theorem settled_eq (vs : List Value) (old : Option Value) : settled vs old =
    match (vs.filter (!·.isVoid)).getLast? with
    | some v => some v.plain
    | none => if vs = [] then old else some (old.getD illegible) := by
  -- From the end, where the value stands that counts.
  induction vs using List.reverseRecOn with
  | nil => rfl
  | append_singleton vs v ih =>
    have hne : vs ++ [v] ≠ [] := List.concat_ne_nil v vs
    have hlast : settled (vs ++ [v]) old = some (settle (settled vs old) v) :=
      settled_append vs [v] old
    cases hv : v.isVoid with
    | true =>
      rw [hlast, settle_of_isVoid hv, ih, List.filter_append, List.filter_cons_of_neg (by simp [hv]),
        List.filter_nil, List.append_nil, if_neg hne]
      cases (vs.filter (!·.isVoid)).getLast? with
      | some w => rfl
      | none => by_cases hvs : vs = [] <;> simp [hvs]
    | false =>
      rw [hlast, settle_of_not_isVoid hv, List.filter_append,
        List.filter_cons_of_pos (by simp [hv]), List.filter_nil, List.getLast?_concat]

/-- A setting in a section. -/
def at? (root : Value) (place : String × String) : Option Value :=
  (root.member? place.1).bind (·.member? place.2)

end Value

namespace Layer

open Value

/-- What an assignment in a section gives to a setting of it. Steps that lead on from the setting give
it nothing that could be read. -/
def givenInside (key : String) (v : Value) : List Step → List Value
  | [] => allOf key v.members
  | [.member name] => if name = key then [v] else []
  | .member name :: _ :: _ => if name = key then [illegible] else []
  | .place _ :: _ => []

def given (place : String × String) (k : Key) (v : Value) : List Value :=
  if k.head = place.1 then givenInside place.2 v k.steps else []

/-- What the assignments of a layer give to a setting, first to last. -/
def values (l : Layer) (place : String × String) : List Value :=
  l.flatMap fun a => given place a.1 a.2

/-- What a layer gives to a setting, if it sets it. -/
def value? (l : Layer) (place : String × String) : Option Value :=
  ((l.values place).filter (!·.isVoid)).getLast?

/-- A section is given as a table, or by its members, if it is given at all. -/
def Tabular (name : String) (k : Key) (v : Value) : Prop :=
  k.head = name → (k.steps = [] → v.IsTable) ∧ ∀ i rest, k.steps ≠ .place i :: rest

/-- A section is given as a table everywhere in a layer. -/
def IsTabular (name : String) (l : Layer) : Prop :=
  ∀ a ∈ l, Tabular name a.1 a.2

/-- The value that the highest layer gives to a setting that it sets. -/
def highest? (ls : List Layer) (place : String × String) : Option Value :=
  ls.reverse.findSome? (·.value? place)

/-- A section that is a table, if it is there. -/
def SectionIsTable (root : Value) (name : String) : Prop :=
  ∀ v, root.member? name = some v → v.IsTable

end Layer

namespace Key

open Value

variable {v node node' : Value} {name : String}

theorem assign_member {steps : List Step} (h : assign v (.member name) steps node = some node') :
    ∃ w, node' = table (bindName name w node.members) ∧
      (steps = [] → w = laid (node.member? name) v) ∧
      ∀ next rest, steps = next :: rest →
        assign v next rest ((node.member? name).getD null) = some w := by
  cases steps with
  | nil =>
    rw [assign, put_eq] at h
    exact ⟨_, (Option.some.inj h).symm, fun _ => rfl, nofun⟩
  | cons next rest =>
    rw [assign, modify] at h
    obtain ⟨w, hw, rfl⟩ := Option.map_eq_some_iff.mp h
    refine ⟨w, rfl, nofun, ?_⟩
    rintro _ _ ⟨⟩
    exact hw

theorem modify_place {f : Value → Option Value} {i : Int}
    (h : modify f (.place i) node = some node') : ∃ items, node' = list items := by
  rw [modify] at h
  simp only [Option.bind_eq_bind, Option.bind_eq_some_iff] at h
  obtain ⟨j, -, w, -, hnode⟩ := h
  exact ⟨_, (Option.some.inj hnode).symm⟩

/-- What has members or items is a table or a list. -/
theorem plain_assign {step : Step} {steps : List Step} (h : assign v step steps node = some node') :
    node'.plain = illegible := by
  cases step with
  | member name =>
    obtain ⟨w, rfl, -⟩ := assign_member h
    rfl
  | place i =>
    have hlist : ∃ items, node' = list items := by
      cases steps <;> exact modify_place h
    obtain ⟨items, rfl⟩ := hlist
    rfl

end Key

namespace Layer

open Value

variable {root root' v : Value} {k : Key} {place : String × String}

theorem inside_at? (key : String) {steps : List Step} {old : Option Value} {w : Value}
    (hold : ∀ u, old = some u → u.IsTable) (hwhole : steps = [] → v.IsTable)
    (hplace : ∀ i rest, steps ≠ .place i :: rest) (hlast : steps = [] → w = laid old v)
    (hmore : ∀ next rest, steps = next :: rest → Key.assign v next rest (old.getD null) = some w) :
    w.IsTable ∧ (w.member? key).map plain =
      settled (givenInside key v steps) ((old.bind (·.member? key)).map plain) := by
  -- A section that is not there yet has no members, whatever it begins as.
  have hmember {default : Value} (hnone : ∀ name, default.member? name = none) (name : String) :
      (old.getD default).member? name = old.bind (·.member? name) := by
    cases old with
    | none => exact hnone name
    | some u => rfl
  match steps with
  | [] =>
    obtain ⟨ms, rfl⟩ := hwhole rfl
    have htop : (old.getD (table [])).IsTable := by
      cases old with
      | none => exact ⟨[], rfl⟩
      | some u => exact hold u rfl
    rw [hlast rfl, laid, member?_merge, map_plain_foldl, hmember fun _ => rfl]
    exact ⟨isTable_merge htop ms, rfl⟩
  | [.member name] =>
    obtain rfl := Option.some.inj (hmore _ _ rfl)
    refine ⟨isTable_put _ _ _, ?_⟩
    rw [member?_put, givenInside, hmember fun _ => rfl, hmember fun _ => rfl]
    by_cases hname : key = name
    · rw [if_pos hname, if_pos hname.symm, Option.map_some, plain_laid, hname]
      rfl
    · rw [if_neg hname, if_neg (Ne.symm hname)]
      rfl
  | .member name :: next :: rest =>
    obtain ⟨u, rfl, -, hinside⟩ := Key.assign_member (hmore _ _ rfl)
    refine ⟨⟨_, rfl⟩, ?_⟩
    rw [member?_bindName, givenInside, hmember fun _ => rfl]
    by_cases hname : key = name
    · rw [if_pos hname, if_pos hname.symm, Option.map_some, Key.plain_assign (hinside _ _ rfl)]
      rfl
    · rw [if_neg hname, if_neg (Ne.symm hname)]
      rfl
  | .place i :: rest => exact absurd rfl (hplace i rest)

theorem set_at? (hroot : SectionIsTable root place.1) (htable : Tabular place.1 k v)
    (hset : k.set v root = some root') :
    SectionIsTable root' place.1 ∧
      (root'.at? place).map plain = settled (given place k v) ((root.at? place).map plain) := by
  obtain ⟨w, rfl, hlast, hmore⟩ := Key.assign_member hset
  have hmember := member?_bindName k.head place.1 w root
  by_cases hhead : k.head = place.1
  · rw [if_pos hhead.symm] at hmember
    rw [hhead] at hlast hmore
    obtain ⟨hwhole, hplace⟩ := htable hhead
    obtain ⟨hw, hvalue⟩ := inside_at? place.2 hroot hwhole hplace hlast hmore
    refine ⟨fun u hu => ?_, ?_⟩
    · rw [hmember] at hu
      exact Option.some.inj hu ▸ hw
    · rwa [at?, hmember, Option.bind_some, given, if_pos hhead]
  · rw [if_neg (Ne.symm hhead)] at hmember
    constructor
    · rwa [SectionIsTable, hmember]
    · rw [at?, hmember, given, if_neg hhead]
      rfl

theorem apply_at? {l : Layer} (hroot : SectionIsTable root place.1)
    (htable : l.IsTabular place.1) (happly : l.apply root = some root') :
    SectionIsTable root' place.1 ∧
      (root'.at? place).map plain = settled (l.values place) ((root.at? place).map plain) := by
  induction l generalizing root with
  | nil =>
    obtain rfl := Option.some.inj happly
    exact ⟨hroot, rfl⟩
  | cons a l ih =>
    rw [apply, List.foldlM_cons, Option.bind_eq_bind, Option.bind_eq_some_iff] at happly
    obtain ⟨next, hset, happly⟩ := happly
    obtain ⟨hnext, hvalue⟩ := set_at? hroot (htable a List.mem_cons_self) hset
    obtain ⟨hroot', hvalues⟩ :=
      ih hnext (fun b hb => htable b (List.mem_cons_of_mem a hb)) happly
    refine ⟨hroot', ?_⟩
    rw [hvalues, hvalue, ← settled_append]
    rfl

theorem isTable_apply {l : Layer} (hroot : root.IsTable) (happly : l.apply root = some root') :
    root'.IsTable := by
  induction l generalizing root with
  | nil =>
    obtain rfl := Option.some.inj happly
    exact hroot
  | cons a l ih =>
    rw [apply, List.foldlM_cons, Option.bind_eq_bind, Option.bind_eq_some_iff] at happly
    obtain ⟨next, hset, happly⟩ := happly
    obtain ⟨w, rfl, -⟩ := Key.assign_member hset
    exact ih ⟨_, rfl⟩ happly

theorem foldlM_apply (ls : List Layer) (root : Value) :
    ls.foldlM (fun root l => l.apply root) root = apply ls.flatten root := by
  induction ls generalizing root with
  | nil => rfl
  | cons l ls ih =>
    rw [List.foldlM_cons, List.flatten_cons, apply, apply, List.foldlM_append]
    simp only [ih]
    rfl

theorem values_flatten (ls : List Layer) (place : String × String) :
    values ls.flatten place = ls.flatMap (·.values place) := by
  induction ls with
  | nil => rfl
  | cons l ls ih =>
    rw [List.flatten_cons, List.flatMap_cons, ← ih]
    exact List.flatMap_append

theorem isTable_combine {ls : List Layer} (hcombine : combine ls = some root) : root.IsTable := by
  rw [combine, foldlM_apply] at hcombine
  exact isTable_apply ⟨[], rfl⟩ hcombine

theorem highest?_eq (ls : List Layer) (place : String × String) :
    highest? ls place = ((ls.flatMap (·.values place)).filter (!·.isVoid)).getLast? := by
  rw [List.filter_flatMap, List.getLast?_flatMap]
  rfl

theorem values_ne_nil_of_highest? {ls : List Layer} (h : highest? ls place = some v) :
    ls.flatMap (·.values place) ≠ [] := by
  intro hnil
  rw [highest?_eq, hnil] at h
  cases h

/-- Unless a section is given in another form, each of its settings has the value that the highest
layer gives to it. -/
theorem combine_at? (place : String × String) {ls : List Layer}
    (htable : ∀ l ∈ ls, l.IsTabular place.1)
    (hcombine : combine ls = some root) :
    SectionIsTable root place.1 ∧ (root.at? place).map plain =
      match highest? ls place with
      | some v => some v.plain
      | none => if ls.flatMap (·.values place) = [] then none else some illegible := by
  have hempty : SectionIsTable (table []) place.1 := fun _ h => nomatch h
  have hflat : IsTabular place.1 ls.flatten := fun a ha => by
    obtain ⟨l, hl, ha⟩ := List.mem_flatten.mp ha
    exact htable l hl a ha
  rw [combine, foldlM_apply] at hcombine
  obtain ⟨hroot, hvalue⟩ := apply_at? hempty hflat hcombine
  refine ⟨hroot, ?_⟩
  rw [hvalue, values_flatten, settled_eq, highest?_eq]
  rfl

end Layer
end SensorRelay.Config
