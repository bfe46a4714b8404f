import PatternFs.Config.Loading
import PatternFs.Json.Standard

/-! Configurations with the JSON that the program is built with. -/
namespace PatternFs.Config

def toJson (c : Config) : Json := (codec Json.Standard.library).form c

def load (h : Host) (path : String) : Except Failure Config := loadWith Json.Standard.library h path

end PatternFs.Config
