namespace DidMessaging.Text

def splitAt (separator : Char → Bool) : List Char → List (List Char)
  | [] => [[]]
  | c :: s =>
    if separator c then [] :: splitAt separator s
    else
      match splitAt separator s with
      | part :: parts => (c :: part) :: parts
      | [] => [[c]]

end DidMessaging.Text
