import ChartCatalog.Condition.Basic
import ChartCatalog.Text.Column

/-!
# Listings

Charts are listed one a line, for a terminal that shows colours: id, difficulty
and level, then the sran level, the rating, title and artist as far as the chart
has them. `Rating.signedText` is the rating as a listing shows it, without its
colour. A list ends with the number of its charts.
-/

namespace ChartCatalog

open Number Text

/-- A way to set off a text on a terminal. -/
inductive Style
  | red
  | green
  | yellow
  | blue
  | cyan
  | bold
  | dim
  deriving DecidableEq

namespace Style

/-- The control sequence with a code. -/
def sequence (code : String) : String := "\x1b[" ++ code ++ "m"

/-- The code that begins the style. -/
def begins : Style → String
  | red => "31"
  | green => "32"
  | yellow => "33"
  | blue => "34"
  | cyan => "36"
  | bold => "1"
  | dim => "2"

/-- The code that ends the style: the colour alone, or everything. -/
def ends : Style → String
  | bold | dim => "0"
  | _ => "39"

/-- The text in the style. -/
def apply (style : Style) (text : String) : String :=
  sequence style.begins ++ text ++ sequence style.ends

end Style

/-- The colour of a difficulty. -/
def Difficulty.style : Difficulty → Style
  | easy => .blue
  | normal => .green
  | hyper => .yellow
  | extra => .red

/-- The name of a difficulty in its colour. -/
def Difficulty.styledName (difficulty : Difficulty) : String :=
  difficulty.style.apply difficulty.name

namespace Rating

/-- Is the rating greater than zero? -/
def isPositive (rating : Binary64) : Bool :=
  Comparison.gt.holds (rating.compare? (.zero false))

/-- The text of a rating, with a plus if the rating is positive. -/
def signedText (rating : Binary64) : String :=
  if isPositive rating then "+" ++ text rating else text rating

/-- The rating of a listing: red above the level, cyan below it, plain if its
text is zero. -/
def styledText (rating : Binary64) : String :=
  if isPositive rating then Style.red.apply (signedText rating)
  else if text rating = "0" then signedText rating
  else Style.cyan.apply (signedText rating)

end Rating

/-- A text in a column, at its left end. -/
def leftColumn (width : Nat) (text : String) : String :=
  String.ofList (alignLeft width text.toList)

/-- A text in a column, at its right end. -/
def rightColumn (width : Nat) (text : String) : String :=
  String.ofList (alignRight width text.toList)

namespace Chart

/-- Title and artist; an artist without a title is not shown. -/
def titleText (chart : Chart) : String :=
  if chart.title = "" then ""
  else
    "  " ++ Style.bold.apply chart.title ++
      if chart.artist = "" then "" else " / " ++ Style.dim.apply chart.artist

/-- The line of a chart in a listing. -/
def line (chart : Chart) : String :=
  leftColumn 10 chart.id ++ " [" ++ chart.difficulty.styledName ++ " Lv." ++
    rightColumn 2 (levelText chart.level) ++ "]" ++
    (match chart.sranLevel with
     | some level => "  srlv " ++ leftColumn 3 level.code
     | none => "") ++
    (match chart.rating with
     | some rating => "  rat " ++ Rating.styledText rating
     | none => "") ++
    chart.titleText

end Chart

/-- The number of charts in words. -/
def countText (n : Nat) : String :=
  String.ofList (digits n) ++ " " ++ (if n = 1 then "chart" else "charts")

/-- The lines of the charts and their number. -/
def listing (charts : List Chart) : String :=
  String.join (charts.map fun chart => chart.line ++ "\n") ++
    Style.dim.apply (countText charts.length)

end ChartCatalog
