namespace CardQuery

structure Config where
  sortType : String
  sortBackwards : Bool
  deriving DecidableEq, Repr

def Config.default : Config := ⟨"noteCrt", false⟩

structure Schedule where
  today : Int
  dayCutoff : Int
  deriving DecidableEq, Repr

end CardQuery
