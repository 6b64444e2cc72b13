import ChartCatalog.Chart.Basic

/-!
# The hardest chart of a song

Whether a chart is the hardest of its song depends on the other charts around
it. `HardestOf` is all that a filter needs to know about them: for every song
the highest difficulty among its charts. `hardestAmong` reads it off a list of
charts.
-/

namespace ChartCatalog

/-- For each song id the highest difficulty charted, if the song is known. -/
abbrev HardestOf := String → Option Difficulty

/-- The highest difficulty among the charts of a song. -/
def hardestAmong (charts : List Chart) : HardestOf := fun songId =>
  ((charts.filter (·.songId = songId)).map (·.difficulty)).max?

/-- Is the chart of the highest difficulty of its song? Charts tied for it all
are. -/
def Chart.isHardest (chart : Chart) (hardest : HardestOf) : Bool :=
  hardest chart.songId == some chart.difficulty

end ChartCatalog
