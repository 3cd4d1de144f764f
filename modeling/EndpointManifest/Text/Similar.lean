import EndpointManifest.Text.Order

/-!
How alike two texts are: the longest run that both have is taken, then the longest runs on its left
and on its right, and so on. The characters in these runs, counted in both texts, are compared with
all.
-/

namespace EndpointManifest.Text

def commonStart : Text → Text → Nat
  | a :: s, b :: t => if a = b then commonStart s t + 1 else 0
  | _, _ => 0

structure SharedRun where
  left : Nat
  right : Nat
  length : Nat
  deriving Repr

/-- The longest run; of several the one that is first on the left, and then first on the right. -/
def longestShared (s t : Text) : SharedRun :=
  (List.range s.length).foldl (fun best i =>
    (List.range t.length).foldl (fun best j =>
      let length := commonStart (s.drop i) (t.drop j)
      if best.length < length then ⟨i, j, length⟩ else best) best) ⟨0, 0, 0⟩

/-- How many characters of each text stand in the runs. The fuel bounds the number of runs one
inside the rest left by another. -/
def sharedCount : (fuel : Nat) → Text → Text → Nat
  | 0, _, _ => 0
  | fuel + 1, s, t =>
    let run := longestShared s t
    if run.length = 0 then 0
    else
      sharedCount fuel (s.take run.left) (t.take run.right) + run.length +
        sharedCount fuel (s.drop (run.left + run.length)) (t.drop (run.right + run.length))

structure Likeness where
  shared : Nat
  all : Nat
  deriving Repr

def Likeness.of (s t : Text) : Likeness :=
  let all := s.length + t.length
  if 10 * min s.length t.length < 3 * all then ⟨0, all⟩ else ⟨2 * sharedCount s.length s t, all⟩

/-- At least three fifths of the characters are shared. -/
def Likeness.isClose (l : Likeness) : Bool := 3 * l.all ≤ 5 * l.shared

/-- More is shared in `k` than in `l`, in proportion. -/
def Likeness.lt (l k : Likeness) : Bool := l.shared * k.all < k.shared * l.all

/-- The names that are close to a text, at most three of them, in order. Of several the closest are
taken, and of equally close ones the last in order. -/
def closeNames (t : Text) (names : List Text) : List Text :=
  let close := (names.map fun name => (name, Likeness.of name t)).filter (·.2.isClose)
  let closest := close.mergeSort fun a b =>
    b.2.lt a.2 || (!a.2.lt b.2 && le b.1 a.1)
  sorted ((closest.take 3).map (·.1))

end EndpointManifest.Text
