import Tile38.Router
import Tile38.ScanWriter
import Tile38.Scripts
import Tile38.Search
import Tile38.Hooks
import Tile38.SearchArgs
import Tile38.HookList
import Tile38.HookQueue
import Tile38.HookManager
import Tile38.HookSystem
import Tile38.Resp
import Tile38.Shrink
import Tile38.Feature
import Tile38.Client
import Tile38.Dev
