import DidMessaging.Url.Domain.Label

namespace DidMessaging.Url.Domain

def isRightToLeft (direction : Text.Direction) : Bool :=
  [.rightToLeft, .arabicLetter, .arabicNumber].contains direction

def isShared (direction : Text.Direction) : Bool :=
  [.europeanNumber, .europeanSeparator, .europeanTerminator, .commonSeparator, .neutral, .boundary,
    .mark].contains direction

def goesRight (directions : List Text.Direction) (last : Text.Direction) : Bool :=
  [.leftToRight, .europeanNumber].contains last &&
    directions.all fun direction => direction = .leftToRight || isShared direction

def goesLeft (directions : List Text.Direction) (last : Text.Direction) : Bool :=
  (isRightToLeft last || last = .europeanNumber) &&
    directions.all (fun direction => isRightToLeft direction || isShared direction) &&
    !(directions.contains .europeanNumber && directions.contains .arabicNumber)

/-- Whether a label beside others from right to left is read in one order; marks at its end do not
count. -/
def isOrdered (label : List Char) : Bool :=
  match label.map Text.direction with
  | [] => true
  | first :: rest =>
    let rest := (rest.reverse.dropWhile (· = .mark)).reverse
    let last := rest.getLast?.getD first
    if first = .leftToRight then goesRight rest last
    else (first = .rightToLeft || first = .arabicLetter) && goesLeft rest last

def ascii? (s : List Char) : Option (List Char) := do
  let composed ← compose? s
  let labels ← (Text.splitAt (· = '.') composed).mapM Label.ofSpelling?
  let mixed := labels.any fun label => label.shown.any (isRightToLeft ∘ Text.direction)
  if mixed && !labels.all (isOrdered ∘ Label.shown) then none
  else some (List.intercalate ['.'] (labels.map Label.ascii))

end DidMessaging.Url.Domain
