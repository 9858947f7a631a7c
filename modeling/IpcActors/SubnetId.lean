/-
  IpcActors.SubnetId

  Identifiers of the IPC hierarchy: raw addresses, content ids, and the
  `SubnetID` path type with the operations the two actors call on it
  (`new_from_parent`, `parent`, `subnet_actor`, `common_parent`, `down`).

  `ipc_sdk` is not among the sources, so `SubnetID` follows the spec (§3): an
  ordered list of addresses forming a path from a root, with the common parent
  the longest shared prefix.  Subnets under different roots share no parent,
  which is why `common_parent` is partial and the gateway `unwrap`s it.

  Token amounts (`TokenAmount`, signed and of arbitrary precision, in atto)
  and epochs (`ChainEpoch`) are `Int` throughout.

  The prefix order makes `SubnetID` a partial order: `s ≤ t` says that `s` is
  `t` or one of its ancestors, and `meet s t` is the greatest common ancestor.
-/
import Mathlib.Data.List.Infix
import Mathlib.Order.Basic

namespace IpcActors

/-- A raw FVM address: an actor or account id. -/
abbrev Address := Nat

/-- A content identifier (`Cid`, `TCid`); `0` is `TCid::default()`. -/
abbrev Cid := Nat

/-! ## Common prefixes of address paths -/

/-- The longest common prefix of two address paths. -/
def commonPrefix : List Address → List Address → List Address
  | a :: as, b :: bs => if a = b then a :: commonPrefix as bs else []
  | _, _ => []

theorem commonPrefix_isPrefix_left : ∀ l m : List Address, commonPrefix l m <+: l
  | a :: as, b :: bs => by
      unfold commonPrefix
      split
      · exact List.cons_prefix_cons.2 ⟨rfl, commonPrefix_isPrefix_left as bs⟩
      · exact List.nil_prefix
  | [], _ => List.nil_prefix
  | _ :: _, [] => List.nil_prefix

theorem commonPrefix_isPrefix_right : ∀ l m : List Address, commonPrefix l m <+: m
  | a :: as, b :: bs => by
      unfold commonPrefix
      split
      · exact List.cons_prefix_cons.2 ⟨‹_›, commonPrefix_isPrefix_right as bs⟩
      · exact List.nil_prefix
  | [], _ => List.nil_prefix
  | _ :: _, [] => List.nil_prefix

/-- Every common prefix is a prefix of the longest one. -/
theorem isPrefix_commonPrefix {p l m : List Address} (hl : p <+: l) (hm : p <+: m) :
    p <+: commonPrefix l m := by
  induction p generalizing l m with
  | nil => exact List.nil_prefix
  | cons c p ih =>
      obtain ⟨a, as, rfl⟩ := List.exists_cons_of_ne_nil (List.ne_nil_of_length_pos
        (Nat.lt_of_lt_of_le (Nat.succ_pos _) hl.length_le))
      obtain ⟨b, bs, rfl⟩ := List.exists_cons_of_ne_nil (List.ne_nil_of_length_pos
        (Nat.lt_of_lt_of_le (Nat.succ_pos _) hm.length_le))
      obtain ⟨rfl, hl'⟩ := List.cons_prefix_cons.1 hl
      obtain ⟨rfl, hm'⟩ := List.cons_prefix_cons.1 hm
      simpa [commonPrefix] using ih hl' hm'

/-! ## SubnetID -/

/-- Modelled from the spec: `ipc_sdk::subnet_id::SubnetID` is not among the
    sources.  A subnet is the path of subnet-actor addresses leading to it from
    the root network `root`. -/
structure SubnetID where
  root : Nat
  children : List Address
  deriving DecidableEq, Repr

/-- Modelled from the spec: an IPC address is a pair of a subnet and a raw
    address of that subnet; equality is structural. -/
structure IPCAddress where
  subnet : SubnetID
  rawAddr : Address
  deriving DecidableEq, Repr

namespace SubnetID

/-- `SubnetID::default()`, the id of no network. -/
def default : SubnetID := ⟨0, []⟩

/-- `SubnetID::new_from_parent`: the child of `parent` run by subnet actor `addr`. -/
def newFromParent (parent : SubnetID) (addr : Address) : SubnetID :=
  ⟨parent.root, parent.children ++ [addr]⟩

/-- `SubnetID::subnet_actor`: the last address of the path, the actor that
    governs the subnet on its parent; the default address at a root. -/
def subnetActor (s : SubnetID) : Address := s.children.getLast?.getD 0

/-- `SubnetID::parent`; a root has none. -/
def parent (s : SubnetID) : Option SubnetID :=
  if s.children = [] then none else some ⟨s.root, s.children.dropLast⟩

/-- The depth of a subnet below its root. -/
def depth (s : SubnetID) : Nat := s.children.length

/-- Ancestor-or-self: `s ≤ t` when `s` lies on the path from the root to `t`. -/
instance : PartialOrder SubnetID where
  le s t := s.root = t.root ∧ s.children <+: t.children
  le_refl s := ⟨rfl, List.prefix_refl _⟩
  le_trans _ _ _ h₁ h₂ := ⟨h₁.1.trans h₂.1, h₁.2.trans h₂.2⟩
  le_antisymm s t h₁ h₂ := by
    cases s; cases t
    simp only [mk.injEq]
    exact ⟨h₁.1, h₁.2.eq_of_length (Nat.le_antisymm h₁.2.length_le h₂.2.length_le)⟩

theorem le_def {s t : SubnetID} : s ≤ t ↔ s.root = t.root ∧ s.children <+: t.children :=
  Iff.rfl

instance (s t : SubnetID) : Decidable (s ≤ t) := decidable_of_iff _ le_def.symm

instance (s t : SubnetID) : Decidable (s < t) := decidable_of_iff _ lt_iff_le_not_le.symm

theorem depth_le_of_le {s t : SubnetID} (h : s ≤ t) : s.depth ≤ t.depth := h.2.length_le

theorem eq_of_le_of_depth_le {s t : SubnetID} (h : s ≤ t) (hd : t.depth ≤ s.depth) :
    s = t :=
  le_antisymm h ⟨h.1.symm, (h.2.eq_of_length (Nat.le_antisymm h.2.length_le hd)).symm ▸
    List.prefix_refl _⟩

theorem depth_lt_of_lt {s t : SubnetID} (h : s < t) : s.depth < t.depth :=
  Nat.lt_of_le_of_ne (depth_le_of_le h.le) fun hd => h.ne (eq_of_le_of_depth_le h.le hd.ge)

/-- Two ancestors of one subnet are ordered by depth. -/
theorem le_of_le_of_le_of_depth {s t u : SubnetID} (hs : s ≤ u) (ht : t ≤ u)
    (hd : s.depth ≤ t.depth) : s ≤ t :=
  ⟨hs.1.trans ht.1.symm, List.prefix_of_prefix_length_le hs.2 ht.2 hd⟩

/-! ### Greatest common ancestor -/

/-- The deepest common ancestor of `s` and `t`, computed on `s`'s root. -/
def meet (s t : SubnetID) : SubnetID := ⟨s.root, commonPrefix s.children t.children⟩

/-- `SubnetID::common_parent`: the deepest subnet that is an ancestor (or equal)
    of both, with its depth; none when the two lie under different roots. -/
def commonParent (s t : SubnetID) : Option (Nat × SubnetID) :=
  if s.root = t.root then some ((meet s t).depth, meet s t) else none

theorem meet_le_left (s t : SubnetID) : meet s t ≤ s :=
  ⟨rfl, commonPrefix_isPrefix_left _ _⟩

theorem meet_le_right {s t : SubnetID} (h : s.root = t.root) : meet s t ≤ t :=
  ⟨h, commonPrefix_isPrefix_right _ _⟩

theorem le_meet {u s t : SubnetID} (hs : u ≤ s) (ht : u ≤ t) : u ≤ meet s t :=
  ⟨hs.1, isPrefix_commonPrefix hs.2 ht.2⟩

/-- `meet s t` is characterised by the common ancestors of `s` and `t`. -/
theorem meet_eq_of_le {u s t : SubnetID} (hs : u ≤ s) (ht : u ≤ t)
    (h : ∀ v, v ≤ s → v ≤ t → v ≤ u) : meet s t = u :=
  le_antisymm (h _ (meet_le_left s t) (meet_le_right (hs.1.symm.trans ht.1)))
    (le_meet hs ht)

theorem meet_comm {s t : SubnetID} (h : s.root = t.root) : meet s t = meet t s :=
  meet_eq_of_le (meet_le_right h.symm) (meet_le_left t s)
    fun _ hs ht => le_meet ht hs

theorem commonParent_eq_some {s t : SubnetID} (h : s.root = t.root) :
    s.commonParent t = some ((meet s t).depth, meet s t) := by
  simp [commonParent, h]

/-! ### Moving one level -/

/-- `SubnetID::down`: the child of `curr` on the path from `curr` to `s`, when
    `s` lies strictly below `curr`. -/
def down (s curr : SubnetID) : Option SubnetID :=
  if curr < s then some ⟨s.root, s.children.take (curr.depth + 1)⟩ else none

theorem down_eq_some {s curr : SubnetID} (h : curr < s) :
    s.down curr = some ⟨s.root, s.children.take (curr.depth + 1)⟩ := by
  simp [down, h]

theorem depth_down {s curr : SubnetID} (h : curr < s) :
    (⟨s.root, s.children.take (curr.depth + 1)⟩ : SubnetID).depth = curr.depth + 1 := by
  have := depth_lt_of_lt h
  simp only [depth, List.length_take] at this ⊢
  omega

/-- The child on the way down lies below `curr` and above (or at) `s`. -/
theorem down_between {s curr : SubnetID} (h : curr < s) :
    curr < ⟨s.root, s.children.take (curr.depth + 1)⟩ ∧
      (⟨s.root, s.children.take (curr.depth + 1)⟩ : SubnetID) ≤ s := by
  have hle : (⟨s.root, s.children.take (curr.depth + 1)⟩ : SubnetID) ≤ s :=
    ⟨rfl, List.take_prefix _ _⟩
  refine ⟨lt_of_le_of_ne (le_of_le_of_le_of_depth h.le hle ?_) fun he => ?_, hle⟩
  · rw [depth_down h]; omega
  · have := depth_down h; rw [← he] at this; omega

theorem depth_parent {s p : SubnetID} (h : s.parent = some p) : p.depth + 1 = s.depth := by
  unfold parent at h
  split at h
  · cases h
  · cases h
    simp only [depth, List.length_dropLast]
    have : s.children.length ≠ 0 := by simpa
    omega

theorem parent_le {s p : SubnetID} (h : s.parent = some p) : p ≤ s := by
  unfold parent at h
  split at h
  · cases h
  · cases h; exact ⟨rfl, List.dropLast_prefix _⟩

/-- A strict descendant of `u` has a parent, and it lies below `u`. -/
theorem parent_of_lt {u s : SubnetID} (h : u < s) : ∃ p, s.parent = some p ∧ u ≤ p := by
  have hd := depth_lt_of_lt h
  have hne : s.children ≠ [] := by intro he; simp [depth, he] at hd
  have hp : s.parent = some ⟨s.root, s.children.dropLast⟩ := by simp [parent, hne]
  refine ⟨_, hp, le_of_le_of_le_of_depth h.le (parent_le hp) ?_⟩
  have := depth_parent hp
  omega

end SubnetID

end IpcActors
