import GeoEngine.Raster.GridIndex
import GeoEngine.Raster.Buffer
import GeoEngine.Raster.Grid
import GeoEngine.Raster.GridBlit
import GeoEngine.Raster.Blit2D
import GeoEngine.Raster.BlitCellwise
import GeoEngine.Raster.BlitShapes
import GeoEngine.Raster.TileFold
import GeoEngine.Sql.Like
import GeoEngine.Services.Search
import GeoEngine.Services.Permission
import GeoEngine.Adapters.Stream
import GeoEngine.Adapters.TimeFold
import GeoEngine.Adapters.ChunkMerger
