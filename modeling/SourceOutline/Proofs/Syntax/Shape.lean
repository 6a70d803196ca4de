import Mathlib.Data.List.TakeWhile
import SourceOutline.Proofs.Syntax.BadNodes
import SourceOutline.Syntax.Repair

/-!
# The shape of syntax trees

What the nodes of a tree look like can be told from the grammar alone, for all sources at once.

* `Shape` bars kinds of nodes from standing directly below others, and asks others for a named child;
  `Shape.Fits` is what this means for one node, `Shape.Holds` for a whole tree.
* `Gram.avoids`, `Gram.names` and `Shape.obeys` read off an expression which kinds it does not give, that
  it gives a named node, and that all nodes which it makes fit.
* `Given` is what follows for the nodes that an expression has given. The reader has fuel, and one step
  of it calls the others with one unit less; `Kept` says it for all of them, and is kept from one unit to
  the next.

Main statement: `Shape.Keeps.holds_parse`.
-/

namespace SourceOutline.Syntax

/-! ## Shapes -/

/-- What nodes look like. -/
structure Shape where
  /-- A node of the first kind has no child of the second one. -/
  barred : List (String × String) := []
  /-- A node of this kind has a named child. -/
  filled : List String := []

namespace Shape

variable (s : Shape)

/-- The kinds that must not stand everywhere. -/
def watched : List String :=
  s.barred.map Prod.snd

/-- A node with the children that it should have. -/
def Fits (n : Node) : Prop :=
  (∀ e ∈ s.barred, n.kind = e.1 → ∀ c ∈ n.children, c.kind ≠ e.2) ∧
    (n.kind ∈ s.filled → n.namedChildren ≠ [])

/-- All nodes of a tree fit. -/
def Holds (n : Node) : Prop :=
  ∀ m ∈ n.preorder, s.Fits m

end Shape

theorem mem_preorderAll {m : Node} {ns : List Node} : m ∈ Node.preorderAll ns ↔ ∃ n ∈ ns, m ∈ n.preorder := by
  induction ns with
  | nil => simp [Node.preorderAll]
  | cons n ns ih => simp [Node.preorderAll, ih]

theorem mem_preorder_iff {m n : Node} : m ∈ n.preorder ↔ m = n ∨ ∃ c ∈ n.children, m ∈ c.preorder := by
  obtain ⟨kind, start, stop, field, named, missing, flagged, children⟩ := n
  rw [Node.preorder, List.mem_cons, mem_preorderAll]

theorem Shape.holds_iff {s : Shape} {n : Node} : s.Holds n ↔ s.Fits n ∧ ∀ c ∈ n.children, s.Holds c := by
  unfold Holds
  constructor
  · intro h
    exact ⟨h n (mem_preorder_iff.mpr (.inl rfl)),
      fun c hc m hm => h m (mem_preorder_iff.mpr (.inr ⟨c, hc, hm⟩))⟩
  · rintro ⟨hn, hchildren⟩ m hm
    rcases mem_preorder_iff.mp hm with rfl | ⟨c, hc, hm⟩
    · exact hn
    · exact hchildren c hc m hm

theorem Shape.Holds.child {s : Shape} {n c : Node} (h : s.Holds n) (hc : c ∈ n.children) : s.Holds c :=
  (Shape.holds_iff.mp h).2 c hc

/-! ## Reading a shape off a grammar -/

namespace Gram

variable {R : Type}

mutual

/-- No node that the expression gives is of the kind, if the rules give none. -/
def avoids (k : String) : Gram R → Bool
  | .word w => w ≠ k
  | .sign w => w ≠ k
  | .lexeme kind _ => kind ≠ k
  | .piece kind _ => kind ≠ k
  | .all gs => avoidsAll k gs
  | .first gs => avoidsAll k gs
  | .maybe g => avoids k g
  | .many g => avoids k g
  | .items g => avoids k g
  | .node kind _ => kind ≠ k
  | .field _ g => avoids k g
  | .renamed kind _ => kind ≠ k
  | .ofKind _ g => avoids k g
  | .grow _ g forms => avoids k g && forms.all fun f => f.kind ≠ k
  | .sameLine g => avoids k g
  | .nested g => avoids k g
  | .aligned g => avoids k g
  | .rule _ | .ahead _ | .absent _ | .lineEnd | .indent | .dedent => true

/-- No expression of a list gives a node of the kind. -/
def avoidsAll (k : String) : List (Gram R) → Bool
  | [] => true
  | g :: gs => avoids k g && avoidsAll k gs

end

mutual

/-- The expression gives a named node that is no comment. -/
def names (comments : List String) : Gram R → Bool
  | .lexeme kind _ => kind ∉ comments
  | .piece kind _ => kind ∉ comments
  | .node kind _ => kind ∉ comments
  | .all gs => namesSome comments gs
  | .first gs => namesAll comments gs
  | .field _ g => names comments g
  | _ => false

/-- Some expression of a list gives a named node. -/
def namesSome (comments : List String) : List (Gram R) → Bool
  | [] => false
  | g :: gs => names comments g || namesSome comments gs

/-- All expressions of a list give a named node. -/
def namesAll (comments : List String) : List (Gram R) → Bool
  | [] => true
  | g :: gs => names comments g && namesAll comments gs

end

end Gram

namespace Shape

variable {R : Type} (s : Shape) (comments : List String)

/-- A node of a kind fits, if an expression gives what is below it. -/
def suits (kind : String) (below : Gram R) : Bool :=
  (s.barred.all fun e => e.1 ≠ kind || below.avoids e.2) && (kind ∉ s.filled || below.names comments)

mutual

/-- All nodes that the expression makes fit. -/
def obeys : Gram R → Bool
  | .word w => w ∉ s.filled
  | .sign w => w ∉ s.filled
  | .lexeme kind _ => kind ∉ s.filled
  | .piece kind _ => kind ∉ s.filled
  | .all gs => obeysAll gs
  | .first gs => obeysAll gs
  | .maybe g => obeys g
  | .many g => obeys g
  | .items g => obeys g
  | .node kind g => obeys g && s.suits comments kind g
  | .field _ g => obeys g
  | .renamed kind g => obeys g && (s.barred.all fun e => e.1 ≠ kind) && kind ∉ s.filled
  | .ofKind _ g => obeys g
  | .grow repeated g forms => obeys g && obeysForms (.grow repeated g forms) forms
  | .sameLine g => obeys g
  | .nested g => obeys g
  | .aligned g => obeys g
  | .rule _ | .ahead _ | .absent _ | .lineEnd | .indent | .dedent => true

/-- All nodes that some expressions make fit. -/
def obeysAll : List (Gram R) → Bool
  | [] => true
  | g :: gs => obeys g && obeysAll gs

/-- All nodes that grow by some forms fit; `whole` gives what they grow from. -/
def obeysForms (whole : Gram R) : List (Form (Gram R)) → Bool
  | [] => true
  | ⟨kind, _, _, _, body⟩ :: forms =>
    obeys body && s.suits comments kind (.all [whole, body]) && obeysForms whole forms

end

/-- What an expression gives may grow by a form, and is still as the expression gives it. -/
structure Grows (whole : Gram R) (f : Form (Gram R)) : Prop where
  body : s.obeys comments f.body = true
  suits : s.suits comments f.kind (.all [whole, f.body]) = true
  avoids : ∀ k, whole.avoids k = true → f.kind ≠ k
  names : whole.names comments = false

theorem grows_of_obeysForms {s : Shape} {comments : List String} {whole : Gram R} {forms : List (Form (Gram R))}
    (h : s.obeysForms comments whole forms = true) {f : Form (Gram R)} (hf : f ∈ forms) :
    s.obeys comments f.body = true ∧ s.suits comments f.kind (.all [whole, f.body]) = true := by
  induction forms with
  | nil => simp at hf
  | cons form forms ih =>
    simp only [obeysForms, Bool.and_eq_true] at h
    rcases List.mem_cons.mp hf with rfl | hf
    · exact h.1
    · exact ih h.2 hf

/-- The nodes of a grammar keep to a shape, going by its rules. -/
structure Keeps (G : Grammar R) : Prop where
  /-- What is passed over between tokens are comments. -/
  gap : ∀ cs, ∀ e ∈ (G.lexicon.gap cs).comments, e.1 ∈ G.commentKinds
  comments : ∀ k ∈ G.commentKinds, k ∉ s.filled ∧ k ∉ s.watched
  root : (∀ e ∈ s.barred, e.1 ≠ G.rootKind) ∧ G.rootKind ∉ s.filled
  error : "ERROR" ∉ s.filled
  rules : ∀ r, s.obeys G.commentKinds (G.rules r) = true
  avoided : ∀ r, ∀ k ∈ s.watched, (G.rules r).avoids k = true

end Shape

/-! ## What expressions give -/

section Given

variable {R : Type} {s : Shape} {comments : List String}

/-- Nodes as an expression gives them. -/
structure Given (s : Shape) (comments : List String) (g : Gram R) (ns : List Node) : Prop where
  holds : ∀ n ∈ ns, s.Holds n
  avoids : ∀ k ∈ s.watched, g.avoids k = true → ∀ n ∈ ns, n.kind ≠ k
  names : g.names comments = true → ∃ n ∈ ns, n.named = true ∧ n.kind ∉ comments

variable {g g' : Gram R} {gs : List (Gram R)} {ns ns' : List Node}

/-- What one expression gives, another one may give that avoids and names less. -/
theorem Given.of_weaker (h : Given s comments g ns)
    (havoids : ∀ k ∈ s.watched, g'.avoids k = true → g.avoids k = true)
    (hnames : g'.names comments = true → g.names comments = true) : Given s comments g' ns where
  holds := h.holds
  avoids k hk hg := h.avoids k hk (havoids k hk hg)
  names hg := h.names (hnames hg)

/-- As `Given.of_weaker`, for an expression that names nothing. -/
theorem Given.of_nameless (h : Given s comments g ns)
    (havoids : ∀ k ∈ s.watched, g'.avoids k = true → g.avoids k = true)
    (hnames : g'.names comments = false) : Given s comments g' ns :=
  h.of_weaker havoids fun hg => by simp [hnames] at hg

theorem given_nil (h : g.names comments = false) : Given s comments g [] where
  holds := by simp
  avoids := by simp
  names hg := by simp [h] at hg

theorem given_nil_all : Given s comments (.all ([] : List (Gram R))) [] :=
  given_nil rfl

theorem Given.all_cons (h : Given s comments g ns) (h' : Given s comments (.all gs) ns') :
    Given s comments (.all (g :: gs)) (ns ++ ns') where
  holds := List.forall_mem_append.mpr ⟨h.holds, h'.holds⟩
  avoids k hk hg := by
    obtain ⟨hhead, htail⟩ := Bool.and_eq_true_iff.mp hg
    exact List.forall_mem_append.mpr ⟨h.avoids k hk hhead, h'.avoids k hk htail⟩
  names hg := by
    rcases Bool.or_eq_true_iff.mp hg with hg | hg
    · obtain ⟨n, hn, hnamed⟩ := h.names hg
      exact ⟨n, List.mem_append_left _ hn, hnamed⟩
    · obtain ⟨n, hn, hnamed⟩ := h'.names hg
      exact ⟨n, List.mem_append_right _ hn, hnamed⟩

theorem Given.first_head (h : Given s comments g ns) : Given s comments (.first (g :: gs)) ns :=
  h.of_weaker (fun _ _ hg => (Bool.and_eq_true_iff.mp hg).1) fun hg => (Bool.and_eq_true_iff.mp hg).1

theorem Given.first_tail (h : Given s comments (.first gs) ns) : Given s comments (.first (g :: gs)) ns :=
  h.of_weaker (fun _ _ hg => (Bool.and_eq_true_iff.mp hg).2) fun hg => (Bool.and_eq_true_iff.mp hg).2

/-- What is given again and again, with no name promised. -/
theorem Given.append (h : Given s comments g ns) (h' : Given s comments g ns') :
    Given s comments g (ns ++ ns') where
  holds := List.forall_mem_append.mpr ⟨h.holds, h'.holds⟩
  avoids k hk hg := List.forall_mem_append.mpr ⟨h.avoids k hk hg, h'.avoids k hk hg⟩
  names hg := by
    obtain ⟨n, hn, hnamed⟩ := h.names hg
    exact ⟨n, List.mem_append_left _ hn, hnamed⟩

/-- Leaves, which have nothing below them. -/
theorem holds_leaf {n : Node} (hchildren : n.children = []) (hkind : n.kind ∉ s.filled) : s.Holds n := by
  rw [Shape.holds_iff, Shape.Fits, hchildren]
  simp [hkind]

theorem given_leaf {n : Node} (hchildren : n.children = []) (hkind : n.kind ∉ s.filled)
    (havoids : ∀ k, g.avoids k = true → n.kind ≠ k)
    (hnames : g.names comments = true → n.named = true ∧ n.kind ∉ comments) : Given s comments g [n] where
  holds := by simpa using holds_leaf hchildren hkind
  avoids k _ hg := by simpa using havoids k hg
  names hg := ⟨n, List.mem_singleton_self n, hnames hg⟩

end Given

/-! ## What the reader does with given nodes -/

section Steps

variable {R : Type} {s : Shape} {G : Grammar R} (hs : s.Keeps G) {g : Gram R} {ns ns' : List Node}

/-- The parse went on with what had been found. -/
theorem Parsed.found_next {p : Parsed} {f : List Node → Cursor → Stall → Parsed} {r : List Node × Cursor} :
    (p.next f).found = some r ↔ ∃ ns c, p.found = some (ns, c) ∧ (f ns c p.stall).found = some r := by
  unfold Parsed.next
  cases hp : p.found with
  | none => simp [hp]
  | some e =>
    obtain ⟨ns, c⟩ := e
    refine ⟨fun h => ⟨ns, c, rfl, h⟩, ?_⟩
    rintro ⟨ns', c', he, h⟩
    cases he
    exact h

theorem Parsed.nodes_eq {ns₁ ns₂ : List Node} {c₁ c₂ : Cursor} {st : Stall}
    (h : (⟨some (ns₁, c₁), st⟩ : Parsed).found = some (ns₂, c₂)) : ns₁ = ns₂ :=
  (Prod.mk.inj (Option.some.inj h)).1

/-- A label on some nodes changes neither what they are nor what is below them. -/
theorem Given.label (name : String) (h : Given s G.commentKinds g ns) :
    Given s G.commentKinds g (G.label name ns) where
  holds n hn := by
    obtain ⟨m, hm, rfl⟩ := List.mem_map.mp hn
    have hholds := Shape.holds_iff.mp (h.holds m hm)
    split
    · exact h.holds m hm
    · exact Shape.holds_iff.mpr hholds
  avoids k hk hg n hn := by
    obtain ⟨m, hm, rfl⟩ := List.mem_map.mp hn
    split <;> exact h.avoids k hk hg m hm
  names hg := by
    obtain ⟨m, hm, hnamed, hkind⟩ := h.names hg
    refine ⟨_, List.mem_map_of_mem hm, ?_⟩
    split <;> exact ⟨hnamed, hkind⟩

theorem Given.based (h : Given s G.commentKinds g ns) (base : Option String) :
    Given s G.commentKinds g (match base with | none => ns | some name => G.label name ns) := by
  cases base with
  | none => exact h
  | some name => exact h.label name

/-- Of the nodes that are wrapped, comments in front stay outside, and all that are no comments are inside. -/
theorem Grammar.exists_wrap (G : Grammar R) (kind : String) (c : Cursor) (ns : List Node) :
    ∃ outside node, G.wrap kind c ns = outside ++ [node] ∧ node.kind = kind ∧ node.named = true ∧
      (∀ n ∈ outside, n ∈ ns ∧ n.kind ∈ G.commentKinds) ∧ (∀ n ∈ node.children, n ∈ ns) ∧
      ∀ n ∈ ns, n.kind ∉ G.commentKinds → n ∈ node.children := by
  let isComment : Node → Bool := fun n => n.kind ∈ G.commentKinds
  have houtside : ∀ n ∈ ns.takeWhile isComment, n ∈ ns ∧ n.kind ∈ G.commentKinds := fun n hn =>
    ⟨(List.takeWhile_sublist _).subset hn, of_decide_eq_true (List.mem_takeWhile_imp (p := isComment) hn)⟩
  refine ⟨ns.takeWhile isComment, _, rfl, rfl, rfl, houtside, fun n hn => (List.dropWhile_sublist _).subset hn, ?_⟩
  intro n hn hkind
  rw [← List.takeWhile_append_dropWhile (p := isComment) (l := ns)] at hn
  rcases List.mem_append.mp hn with hn | hn
  · exact absurd (houtside n hn).2 hkind
  · exact hn

include hs

theorem mem_comments_skip {c : Cursor} {n : Node} (hn : n ∈ (c.skip G.lexicon).1) :
    n.kind ∈ G.commentKinds ∧ n.children = [] := by
  obtain ⟨e, he, rfl⟩ := List.mem_map.mp hn
  exact ⟨hs.gap _ e he, rfl⟩

/-- Comments in front change nothing. -/
theorem Given.comments_append {c : Cursor} (h : Given s G.commentKinds g ns) :
    Given s G.commentKinds g ((c.skip G.lexicon).1 ++ ns) where
  holds := List.forall_mem_append.mpr ⟨fun n hn => by
    obtain ⟨hkind, hchildren⟩ := mem_comments_skip hs hn
    exact holds_leaf hchildren (hs.comments _ hkind).1, h.holds⟩
  avoids k hk hg := List.forall_mem_append.mpr ⟨fun n hn heq =>
    (hs.comments _ (mem_comments_skip hs hn).1).2 (heq ▸ hk), h.avoids k hk hg⟩
  names hg := by
    obtain ⟨n, hn, hnamed⟩ := h.names hg
    exact ⟨n, List.mem_append_right _ hn, hnamed⟩

theorem given_of_leaf {c c' : Cursor} {st : Stall} {scan : List Char → Option Nat} {make : Nat → Nat → Node}
    (hmake : ∀ a b, Given s G.commentKinds g [make a b])
    (h : (G.leaf c st scan make).found = some (ns, c')) : Given s G.commentKinds g ns := by
  unfold Grammar.leaf at h
  dsimp only at h
  split at h
  · simp at h
  · split at h
    · simp at h
    · exact Parsed.nodes_eq h ▸ (hmake _ _).comments_append hs

theorem given_wrap {below : Gram R} {kind : String} (hsuits : s.suits G.commentKinds kind below = true)
    (h : Given s G.commentKinds below ns) (c : Cursor) :
    Given s G.commentKinds (.node kind g) (G.wrap kind c ns) := by
  obtain ⟨hbarred, hfilled⟩ := Bool.and_eq_true_iff.mp hsuits
  simp only [List.all_eq_true, Bool.or_eq_true, decide_eq_true_eq] at hbarred hfilled
  obtain ⟨outside, node, hwrap, rfl, hnamed, houtside, hinside, hstays⟩ := G.exists_wrap kind c ns
  rw [hwrap]
  constructor
  · refine List.forall_mem_append.mpr ⟨fun n hn => h.holds n (houtside n hn).1, ?_⟩
    intro n hn
    obtain rfl := List.mem_singleton.mp hn
    refine Shape.holds_iff.mpr ⟨⟨?_, ?_⟩, fun m hm => h.holds m (hinside m hm)⟩
    · intro e he heq m hm
      have havoids := (hbarred e he).resolve_left fun hne => hne heq.symm
      exact h.avoids e.2 (List.mem_map_of_mem he) havoids m (hinside m hm)
    · intro hkind
      obtain ⟨m, hm, hm', hcomment⟩ := h.names (hfilled.resolve_left fun hne => hne hkind)
      exact List.ne_nil_of_mem (List.mem_filter.mpr ⟨hstays m hm hcomment, hm'⟩)
  · intro k hk hg
    refine List.forall_mem_append.mpr ⟨fun n hn heq => ?_, ?_⟩
    · exact (hs.comments _ (houtside n hn).2).2 (heq ▸ hk)
    · intro n hn
      obtain rfl := List.mem_singleton.mp hn
      simpa [Gram.avoids] using hg
  · intro hg
    exact ⟨node, List.mem_append_right _ (List.mem_singleton_self _), hnamed, by simpa [Gram.names] using hg⟩

theorem Given.rename {kind : String} (hbarred : ∀ e ∈ s.barred, e.1 ≠ kind) (hfilled : kind ∉ s.filled)
    (h : Given s G.commentKinds g ns) : Given s G.commentKinds (.renamed kind g) (G.rename kind ns) where
  holds n hn := by
    obtain ⟨m, hm, rfl⟩ := List.mem_map.mp hn
    have hholds := Shape.holds_iff.mp (h.holds m hm)
    split
    · exact h.holds m hm
    · have hfits : s.Fits { m with kind } :=
        ⟨fun e he heq => absurd heq.symm (hbarred e he), fun hkind => absurd hkind hfilled⟩
      exact Shape.holds_iff.mpr ⟨hfits, hholds.2⟩
  avoids k hk hg n hn := by
    obtain ⟨m, hm, rfl⟩ := List.mem_map.mp hn
    split
    · rename_i hcomment
      exact fun heq => (hs.comments _ hcomment).2 (heq ▸ hk)
    · simpa [Gram.avoids] using hg
  names hg := by simp [Gram.names] at hg

end Steps

/-! ## What the reader gives -/

section Reader

variable {R : Type} {s : Shape} {G : Grammar R}

/-- With some fuel, the reader gives nodes as the expressions say. What grows is told by the expression
`whole` of all that it may grow to. -/
structure Kept (s : Shape) (G : Grammar R) (fuel : Nat) : Prop where
  run : ∀ {g c st ns c'}, s.obeys G.commentKinds g = true → (G.run fuel g c st).found = some (ns, c') →
    Given s G.commentKinds g ns
  all : ∀ {gs c st ns c'}, s.obeysAll G.commentKinds gs = true → (G.runAll fuel gs c st).found = some (ns, c') →
    Given s G.commentKinds (.all gs) ns
  first : ∀ {gs c st ns c'}, s.obeysAll G.commentKinds gs = true →
    (G.runFirst fuel gs c st).found = some (ns, c') → Given s G.commentKinds (.first gs) ns
  sameLine : ∀ {g c st ns c'}, s.obeys G.commentKinds g = true →
    (G.runSameLine fuel g c st).found = some (ns, c') → Given s G.commentKinds g ns
  many : ∀ {g c st ns c'}, s.obeys G.commentKinds g = true → (G.runMany fuel g c st).found = some (ns, c') →
    Given s G.commentKinds (.many g) ns
  items : ∀ {g c st ns c'}, s.obeys G.commentKinds g = true → (G.runItems fuel g c st).found = some (ns, c') →
    Given s G.commentKinds (.items g) ns
  grow : ∀ {whole repeated forms start ns c st ns' c'}, (∀ f ∈ forms, s.Grows G.commentKinds whole f) →
    Given s G.commentKinds whole ns → (G.runGrow fuel repeated forms start ns c st).found = some (ns', c') →
      Given s G.commentKinds whole ns'
  forms : ∀ {whole forms start ns c st ns' c'}, (∀ f ∈ forms, s.Grows G.commentKinds whole f) →
    Given s G.commentKinds whole ns → (G.runForms fuel forms start ns c st).found = some (ns', c') →
      Given s G.commentKinds whole ns'

variable {fuel : Nat} {g : Gram R} {gs : List (Gram R)} {c c' : Cursor} {st : Stall} {ns ns' : List Node}

theorem Kept.run_succ (hs : s.Keeps G) (h : Kept s G fuel) (hg : s.obeys G.commentKinds g = true)
    (hrun : (G.run (fuel + 1) g c st).found = some (ns, c')) : Given s G.commentKinds g ns := by
  cases g <;> simp only [Grammar.run] at hrun <;> simp only [Shape.obeys] at hg
  case word w | sign w =>
    refine given_of_leaf hs (fun a b => given_leaf rfl (of_decide_eq_true hg) ?_ ?_) hrun
    · exact fun k hk => of_decide_eq_true hk
    · exact fun hnames => by simp [Gram.names] at hnames
  case lexeme kind scan =>
    refine given_of_leaf hs (fun a b => given_leaf rfl (of_decide_eq_true hg) ?_ ?_) hrun
    · exact fun k hk => of_decide_eq_true hk
    · exact fun hnames => ⟨rfl, of_decide_eq_true hnames⟩
  case piece kind scan =>
    split at hrun
    · simp at hrun
    · rw [← Parsed.nodes_eq hrun]
      refine given_leaf rfl (of_decide_eq_true hg) ?_ ?_
      · exact fun k hk => of_decide_eq_true hk
      · exact fun hnames => ⟨rfl, of_decide_eq_true hnames⟩
  case rule r =>
    -- the name of a rule says nothing of what it gives, the rule itself does
    exact (h.run (hs.rules r) hrun).of_nameless (fun k hk _ => hs.avoided r k hk) rfl
  case all gs => exact h.all hg hrun
  case first gs => exact h.first hg hrun
  case maybe g =>
    split at hrun
    · exact Parsed.nodes_eq hrun ▸ given_nil rfl
    · exact (h.sameLine hg hrun).of_nameless (fun k _ hk => hk) rfl
  case many g => exact h.many hg hrun
  case items g => exact h.items hg hrun
  case ahead g =>
    obtain ⟨e, -, he⟩ := Option.map_eq_some_iff.mp hrun
    simp only [Prod.mk.injEq] at he
    exact he.1 ▸ given_nil rfl
  case absent g =>
    split at hrun
    · exact Parsed.nodes_eq hrun ▸ given_nil rfl
    · simp at hrun
  case node kind g =>
    obtain ⟨hg, hsuits⟩ := Bool.and_eq_true_iff.mp hg
    obtain ⟨ns, c', hfound, hrun⟩ := Parsed.found_next.mp hrun
    exact Parsed.nodes_eq hrun ▸ given_wrap hs hsuits (h.run hg hfound) c
  case field name g =>
    obtain ⟨ns, c', hfound, hrun⟩ := Parsed.found_next.mp hrun
    rw [← Parsed.nodes_eq hrun]
    exact ((h.run hg hfound).label name).of_weaker (fun k _ hk => hk) fun hnames => hnames
  case renamed kind g =>
    simp only [Bool.and_eq_true, List.all_eq_true, decide_eq_true_eq] at hg
    obtain ⟨⟨hg, hbarred⟩, hfilled⟩ := hg
    obtain ⟨ns, c', hfound, hrun⟩ := Parsed.found_next.mp hrun
    exact Parsed.nodes_eq hrun ▸ (h.run hg hfound).rename hs hbarred hfilled
  case ofKind kinds g =>
    obtain ⟨ns, c', hfound, hrun⟩ := Parsed.found_next.mp hrun
    split at hrun
    · exact Parsed.nodes_eq hrun ▸ (h.run hg hfound).of_nameless (fun k _ hk => hk) rfl
    · simp at hrun
  case grow repeated g forms =>
    obtain ⟨hg, hforms⟩ := Bool.and_eq_true_iff.mp hg
    obtain ⟨ns, c', hfound, hrun⟩ := Parsed.found_next.mp hrun
    -- what has grown may grow again, so all of it counts as given by the whole expression
    have hbase : Given s G.commentKinds (.grow repeated g forms) ns :=
      (h.run hg hfound).of_nameless (fun k _ hk => (Bool.and_eq_true_iff.mp hk).1) rfl
    refine h.grow (fun f hf => ?_) hbase hrun
    obtain ⟨hbody, hsuits⟩ := Shape.grows_of_obeysForms hforms hf
    refine ⟨hbody, hsuits, fun k hk => ?_, rfl⟩
    exact of_decide_eq_true (List.all_eq_true.mp (Bool.and_eq_true_iff.mp hk).2 f hf)
  case sameLine g => exact (h.sameLine hg hrun).of_nameless (fun k _ hk => hk) rfl
  case nested g =>
    obtain ⟨ns, c', hfound, hrun⟩ := Parsed.found_next.mp hrun
    exact Parsed.nodes_eq hrun ▸ (h.run hg hfound).of_nameless (fun k _ hk => hk) rfl
  case lineEnd | indent | dedent =>
    split at hrun
    · exact Parsed.nodes_eq hrun ▸ given_nil rfl
    · simp at hrun
  case aligned g =>
    split at hrun
    · simp at hrun
    · exact (h.run hg hrun).of_nameless (fun k _ hk => hk) rfl

theorem Kept.all_succ (h : Kept s G fuel) (hgs : s.obeysAll G.commentKinds gs = true)
    (hrun : (G.runAll (fuel + 1) gs c st).found = some (ns, c')) : Given s G.commentKinds (.all gs) ns := by
  cases gs with
  | nil =>
    rw [Grammar.runAll] at hrun
    exact Parsed.nodes_eq hrun ▸ given_nil_all
  | cons g gs =>
    obtain ⟨hg, hgs⟩ := Bool.and_eq_true_iff.mp hgs
    rw [Grammar.runAll] at hrun
    obtain ⟨ns, c', hfound, hrun⟩ := Parsed.found_next.mp hrun
    obtain ⟨ns', c', hfound', hrun⟩ := Parsed.found_next.mp hrun
    exact Parsed.nodes_eq hrun ▸ (h.run hg hfound).all_cons (h.all hgs hfound')

theorem Kept.first_succ (h : Kept s G fuel) (hgs : s.obeysAll G.commentKinds gs = true)
    (hrun : (G.runFirst (fuel + 1) gs c st).found = some (ns, c')) : Given s G.commentKinds (.first gs) ns := by
  cases gs with
  | nil => simp [Grammar.runFirst] at hrun
  | cons g gs =>
    obtain ⟨hg, hgs⟩ := Bool.and_eq_true_iff.mp hgs
    rw [Grammar.runFirst] at hrun
    split at hrun
    · exact (h.first hgs hrun).first_tail
    · exact (h.run hg hrun).first_head

theorem Kept.sameLine_succ (h : Kept s G fuel) (hg : s.obeys G.commentKinds g = true)
    (hrun : (G.runSameLine (fuel + 1) g c st).found = some (ns, c')) : Given s G.commentKinds g ns := by
  rw [Grammar.runSameLine] at hrun
  obtain ⟨ns, c', hfound, hrun⟩ := Parsed.found_next.mp hrun
  exact Parsed.nodes_eq hrun ▸ h.run hg hfound

theorem Kept.many_succ (h : Kept s G fuel) (hg : s.obeys G.commentKinds g = true)
    (hrun : (G.runMany (fuel + 1) g c st).found = some (ns, c')) : Given s G.commentKinds (.many g) ns := by
  rw [Grammar.runMany] at hrun
  split at hrun
  · exact Parsed.nodes_eq hrun ▸ given_nil rfl
  · rename_i ns₁ c₁ st₁ hfirst
    split at hrun
    · exact Parsed.nodes_eq hrun ▸ given_nil rfl
    · obtain ⟨ns₂, c₂, hfound, hrun⟩ := Parsed.found_next.mp hrun
      have hitem : Given s G.commentKinds (.many g) ns₁ :=
        (h.sameLine hg (congrArg Parsed.found hfirst)).of_nameless (fun k _ hk => hk) rfl
      exact Parsed.nodes_eq hrun ▸ hitem.append (h.many hg hfound)

theorem Kept.items_succ (h : Kept s G fuel) (hg : s.obeys G.commentKinds g = true)
    (hrun : (G.runItems (fuel + 1) g c st).found = some (ns, c')) : Given s G.commentKinds (.items g) ns := by
  rw [Grammar.runItems] at hrun
  split at hrun
  · exact Parsed.nodes_eq hrun ▸ given_nil rfl
  · split at hrun
    · exact Parsed.nodes_eq hrun ▸ given_nil rfl
    · rename_i ns₁ c₁ st₁ hfirst
      split at hrun
      · exact Parsed.nodes_eq hrun ▸ given_nil rfl
      · obtain ⟨ns₂, c₂, hfound, hrun⟩ := Parsed.found_next.mp hrun
        have hitem : Given s G.commentKinds (.items g) ns₁ :=
          (h.run hg (congrArg Parsed.found hfirst)).of_nameless (fun k _ hk => hk) rfl
        exact Parsed.nodes_eq hrun ▸ hitem.append (h.items hg hfound)

section Growth

variable {whole : Gram R} {forms : List (Form (Gram R))} {start : Cursor}

theorem Kept.grow_succ (h : Kept s G fuel) {repeated : Bool} (hgrows : ∀ f ∈ forms, s.Grows G.commentKinds whole f)
    (hns : Given s G.commentKinds whole ns)
    (hrun : (G.runGrow (fuel + 1) repeated forms start ns c st).found = some (ns', c')) :
    Given s G.commentKinds whole ns' := by
  rw [Grammar.runGrow] at hrun
  split at hrun
  · exact Parsed.nodes_eq hrun ▸ hns
  · rename_i ns₁ c₁ st₁ hform
    have hgrown : Given s G.commentKinds whole ns₁ :=
      h.forms hgrows hns (congrArg Parsed.found hform)
    split at hrun
    · exact h.grow hgrows hgrown hrun
    · exact Parsed.nodes_eq hrun ▸ hgrown

theorem Kept.forms_succ (hs : s.Keeps G) (h : Kept s G fuel) (hgrows : ∀ f ∈ forms, s.Grows G.commentKinds whole f)
    (hns : Given s G.commentKinds whole ns)
    (hrun : (G.runForms (fuel + 1) forms start ns c st).found = some (ns', c')) :
    Given s G.commentKinds whole ns' := by
  cases forms with
  | nil => simp [Grammar.runForms] at hrun
  | cons form forms =>
    obtain ⟨hform, htail⟩ := List.forall_mem_cons.mp hgrows
    rw [Grammar.runForms] at hrun
    dsimp only at hrun
    split at hrun
    · exact h.forms htail hns hrun
    · split at hrun
      · exact h.forms htail hns hrun
      · rename_i ns₁ c₁ st₁ hbody
        have hbase := hns.based form.base
        have hgiven := h.sameLine hform.body (congrArg Parsed.found hbody)
        have hbelow := hbase.all_cons (hgiven.all_cons given_nil_all)
        rw [List.append_nil] at hbelow
        have hnode : Given s G.commentKinds (.node form.kind whole) (G.wrap form.kind start _) :=
          given_wrap hs hform.suits hbelow start
        exact Parsed.nodes_eq hrun ▸
          hnode.of_nameless (fun k _ hk => decide_eq_true (hform.avoids k hk)) hform.names

end Growth

/-- With any fuel, the reader gives nodes as the expressions say. -/
theorem Shape.Keeps.kept (hs : s.Keeps G) (fuel : Nat) : Kept s G fuel := by
  induction fuel with
  | zero =>
    -- without fuel, most readers find nothing
    constructor
    case run => intro _ _ _ _ _ _ hrun; simp [Grammar.run] at hrun
    case all => intro _ _ _ _ _ _ hrun; simp [Grammar.runAll] at hrun
    case first => intro _ _ _ _ _ _ hrun; simp [Grammar.runFirst] at hrun
    case sameLine => intro _ _ _ _ _ _ hrun; simp [Grammar.runSameLine] at hrun
    case forms => intro _ _ _ _ _ _ _ _ _ _ hrun; simp [Grammar.runForms] at hrun
    -- repetitions and growth stop, with what they have
    case many =>
      intro _ _ _ _ _ _ hrun
      rw [Grammar.runMany] at hrun
      exact Parsed.nodes_eq hrun ▸ given_nil rfl
    case items =>
      intro _ _ _ _ _ _ hrun
      rw [Grammar.runItems] at hrun
      exact Parsed.nodes_eq hrun ▸ given_nil rfl
    case grow =>
      intro _ _ _ _ _ _ _ _ _ _ hns hrun
      rw [Grammar.runGrow] at hrun
      exact Parsed.nodes_eq hrun ▸ hns
  | succ fuel ih =>
    exact {
      run := ih.run_succ hs
      all := ih.all_succ
      first := ih.first_succ
      sameLine := ih.sameLine_succ
      many := ih.many_succ
      items := ih.items_succ
      grow := ih.grow_succ
      forms := ih.forms_succ hs }

end Reader

end SourceOutline.Syntax
