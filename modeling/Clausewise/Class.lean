import Clausewise.Complaint
/-!
Classes of values. A class is a name with the module that is its home, the classes it derives from, and
what its instances do when they are compared, printed, called or created. Derivation is membership among
the ancestors, so it is transitive by construction. What counts as an instance of a class need not be: a class may
have a rule of its own for that.
-/

namespace Clausewise

/-- What `==` answers for instances of a class. -/
inductive EqualityRule where
  /-- Equal to itself only. -/
  | identity
  | answers (verdict : Bool)
  | refuses (refusal : Refusal)
deriving DecidableEq, Inhabited

/-- What `<`, `<=`, `>` and `>=` answer for instances of a class. -/
inductive OrderingRule where
  /-- Instances leave the question to the other side. -/
  | absent
  | answers (lt le gt ge : Bool)
  | refuses (refusal : Refusal)
deriving DecidableEq, Inhabited

/-- What a class answers when it is asked whether a value of another class is its instance. -/
inductive InstanceRule where
  /-- Yes for the classes that derive from it. -/
  | derivation
  /-- Yes also for the classes whose instances may be keys. -/
  | hashing
  | answers (verdict : Bool)
  | refuses (refusal : Refusal)
deriving DecidableEq, Inhabited

/-- How instances of a class print. -/
inductive InstanceDisplay where
  /-- Only as some object of the class. -/
  | opaqueObject
  /-- As the class name with the attributes. -/
  | attributes
deriving DecidableEq, Inhabited

/-- What instances of a class do beyond carrying attributes. -/
structure Traits where
  equality : EqualityRule := .identity
  ordering : OrderingRule := .absent
  display : InstanceDisplay := .attributes
  /-- The attribute that instances answer when they are called, if they can be. -/
  answersWith : Option String := none
  /-- The complaint of an attempt to create an instance, if every attempt fails. -/
  uncreatable : Option Complaint := none
  instances : InstanceRule := .derivation
  /-- Whether instances may be keys, if the class itself says so. -/
  hashing : Option Bool := none
  /-- Constants of the class itself. -/
  constants : List (String × Int) := []
deriving DecidableEq, Inhabited

/-- A class: its home module, its name, the classes it derives from, and its traits. -/
inductive Class where
  | mk (home name : String) (bases : List Class) (traits : Traits)

namespace Class

instance : Inhabited Class := ⟨.mk "" "" [] {}⟩

/-- The module that the class lives in. -/
def home : Class → String
  | mk home _ _ _ => home

def name : Class → String
  | mk _ name _ _ => name

/-- The classes that the class derives from directly. -/
def bases : Class → List Class
  | mk _ _ bases _ => bases

/-- What instances of the class do. -/
def traits : Class → Traits
  | mk _ _ _ traits => traits

mutual

/-- Equality of classes can be decided. -/
def decEq : (c d : Class) → Decidable (c = d)
  | mk h n bs t, mk h' n' bs' t' =>
    if same : h = h' ∧ n = n' ∧ t = t' then
      match decEqList bs bs' with
      | isTrue eq => isTrue (by rw [same.1, same.2.1, same.2.2, eq])
      | isFalse ne => isFalse fun eq => ne (by injection eq)
    else isFalse fun eq => same (by injection eq with a b _ d; exact ⟨a, b, d⟩)

/-- Equality of lists of classes can be decided. -/
def decEqList : (cs ds : List Class) → Decidable (cs = ds)
  | [], [] => isTrue rfl
  | [], _ :: _ => isFalse nofun
  | _ :: _, [] => isFalse nofun
  | c :: cs, d :: ds =>
    match decEq c d, decEqList cs ds with
    | isTrue h, isTrue t => isTrue (by rw [h, t])
    | isFalse ne, _ => isFalse fun eq => ne (by injection eq)
    | _, isFalse ne => isFalse fun eq => ne (by injection eq)

end

instance : DecidableEq Class := decEq

mutual

/-- The class itself and every class that it derives from, directly or not. -/
def ancestors : Class → List Class
  | c@(mk _ _ bs _) => c :: ancestorsOfAll bs

def ancestorsOfAll : List Class → List Class
  | [] => []
  | c :: cs => ancestors c ++ ancestorsOfAll cs

end

def derivesFrom (c d : Class) : Bool := decide (d ∈ c.ancestors)

mutual

theorem mem_ancestors_trans {c d e : Class} (hd : d ∈ c.ancestors) (he : e ∈ d.ancestors) : e ∈ c.ancestors := by
  cases c with
  | mk home name bases traits =>
    rw [ancestors, List.mem_cons] at hd
    rcases hd with rfl | hd
    · exact he
    · rw [ancestors]
      exact List.mem_cons_of_mem _ (mem_ancestorsOfAll_trans hd he)

theorem mem_ancestorsOfAll_trans {cs : List Class} {d e : Class} (hd : d ∈ ancestorsOfAll cs) (he : e ∈ d.ancestors) :
    e ∈ ancestorsOfAll cs := by
  cases cs with
  | nil => cases hd
  | cons c cs =>
    rw [ancestorsOfAll, List.mem_append] at hd ⊢
    exact hd.imp (fun hd => mem_ancestors_trans hd he) fun hd => mem_ancestorsOfAll_trans hd he

end

theorem derivesFrom_trans {c d e : Class} (hcd : c.derivesFrom d = true) (hde : d.derivesFrom e = true) :
    c.derivesFrom e = true := by
  rw [derivesFrom, decide_eq_true_iff] at *
  exact mem_ancestors_trans hcd hde

/-- Whether instances may be keys: the class says so, or the nearest that it derives from. -/
def hashes (c : Class) : Bool := (c.ancestors.findSome? fun a => a.traits.hashing).getD true

/-- Whether values of the class `c` count as instances of `d`. The class itself is not asked about its own values. -/
def countsAs (c d : Class) : Except Refusal Bool :=
  if c = d then .ok true
  else
    match d.traits.instances with
    | .derivation => .ok (c.derivesFrom d)
    | .hashing => .ok (c.derivesFrom d || c.hashes)
    | .answers verdict => .ok verdict
    | .refuses refusal => .error refusal

/-- The name with the home module in front, which is left out for the module that needs no import. -/
def qualifiedName (c : Class) : List Char :=
  (if c.home = "builtins" then [] else c.home.toList ++ ['.']) ++ c.name.toList

/-- The written form of a class as a value. -/
def display (c : Class) : List Char := "<class '".toList ++ c.qualifiedName ++ "'>".toList

end Class

end Clausewise
