import CriticalCss.Text.Packed
/-!
# The JIS X 0208 table

The characters of the two-byte codes of Shift_JIS, by pointer: a lead byte
`l` and a trail byte `t` have the pointer `(l - o) * 188 + (t - p)`, where
`o` is 0x81 for lead bytes below 0xA0 and 0xC1 above, and `p` is 0x40 for
trail bytes below 0x7F and 0x41 above. The table covers JIS X 0208 with the
NEC and IBM extensions of the Windows code page; pointers with no character,
and those of the user-defined area, hold the replacement character U+FFFD.
The characters are stored delta coded and packed (`CriticalCss.Text.undelta`,
`CriticalCss.Text.unpack`): the second level of kanji comes in order of code
point.

## Main definitions

* `jisTable`: the characters by pointer.
-/

namespace CriticalCss.Text

/-- The characters of the JIS X 0208 pointers, delta coded and packed. -/
def jisPacked : String :=
  String.join [
    "　!!，#・：!%V^゛!´｀¨＾XmU1ヽ!Uu!U:仝々!!Yc―Vw／NC∥｜…V|Vo!$!（!〔!［#?#〈!~e04＋#±GA＝≠＜#≦!V27cQVz°′!Y=￥TNYI!TSVz$%7§☆V|VA%V|VuV|VVV|4V|,V|※〒→Vz!#〓� ~e05∈$XB!Vw!V!V|~eM4∧!￢⇒#M$~eb7∠XLX4Sz&X Vm9!V*DV[9Vr!~eX3ÅT4igVzVy†!¶~eI0◯� ~e09TB~h25YQ~eI3S!~e0KY0~eX2t~eXLXk   ぁ!~0011J~gw7ァ~edO~fYzΑ~eOC#~eVAα~eVR~e0QА~eh1Vh6~g5F~f9Hа~eK1=Va~emY─#+%)Vx)1Vt1)V@#-%)Vx-1Vt11VP0Vu0)VY4Vq4+� ~00172①~mFFⅠ~mP6㍉VF/LVF0VWWT<'V1:Vy)@VmX(!!Vl!WVVX~m64㍻〝#№㏍℡㊤!!!!U_!(ZXV|V|≒0VE$V_*XRUPV|XhUKVp!~08v34亜jGf!阿哀|.]m姶逢葵S0穐悪a.u3旭葦芦鯵梓圧斡扱宛姐虻飴絢X#鮎或粟zE安a#d=b+[k闇]%杏以FWeWrXtjw^JXeN]hefQX(e2`Cmue$BdubOWd`%aBd>_Jg.F医井1r7育郁磯一w,溢逸稲qMU8鰯允^4ZaE]_`mfO飲淫胤d2院/QZo吋VdmS烏羽迂l?卯鵜窺丑碓rg渦嘘Sv欝蔚鰻姥厩浦m5閏噂云運ju荏餌叡]4gUd*k!Y@Z$cxY(WWlK^sb#頴英gE]ep>液n_Z2駅悦謁_4o3榎厭円ghZ1Z'^va9ZEayWmq!^Z[3XMWgXC[#vWd_X!_r",
    "v_]ZvU塩於jlq!凹lNWXiBX#`1a5ctYkXTn<zds8鴬V^[p岡沖荻億x(gF臆桶t4乙[Zav恩温zS音下f@仮X.VdX+VMa$Zc]z`W[lYcL科暇Z(;b3Z|bUaNhLRXEZ_lCKJX:X?V`b0aC嘩貨a5X/kC蚊俄峨f_牙`3臥YEd*hCtN^SY/介Wq解回[%XGiXY^WaX1VI['WdY+^o魁晦^OeV`JelZMkcffg/開Yq貝凱Y:j%咳ktZwd;o%cqvtzlb)]|r2l*浬馨蛙垣柿蛎x 劃cG各vecQ]7a|Vxa|mwg#[k覚WYb6[Q]IeEY_YB学Za楽額!掛笠樫Wv梶鰍潟割a!vi_'u>Y9Y7葛eDi[且鰹叶椛Z2鞄株兜竃t8釜[j噛鴨栢茅Z?粥刈苅瓦乾Ys^!u 刊Y;0wO喚_;[v[`-We_B(^/XCWfX!^![@^uXIXo^I6Yr_wX<V)gFX/]*Ic7XjXG]'ZaY'Xu](ZKi<Z,]>bwbkZUVz2Y0['Zi舘丸hup>Z'玩_NY^岩翫贋sYZdWe%企.dL^0Y9[KZa] Y(Y9[5X9ZbcfaCS&,ZP[fVu[T帰毅WtX-qYbg季稀`Q徽規XP_GY0ZiWssiZ?ZA亀]]XJpD]ijaWs^rivm%`BbSj/o^_mY 掬菊鞠吉Vv[b桔]d詰砧杵黍却o9脚flsY丘NXIWleHX5m5a]Z%fb]Kf:QX8b2b(j@WYX ]rV`X/旧|G去p;[]ez/WZwB虚bubIfP漁v:魚亨$!Y]&ZDX=競共XLZrVHX%X3[|`(dG^[4YRB>_^^?f'_ i(Lf7qa.Yqa=y0`;cbZlYq仰`>u?uC`=局vG_.t^桐粁僅^$dLk*錦斤gZ;qNg(W^[G_*f$Z&eBYM]9e']`吟",
    "銀九]8bLU*狗Y,d<w8yPwR#+具愚虞喰空偶x>遇if串櫛釧屑Vslj窟沓靴轡窪熊隈粂栗繰桑鍬勲Z<薫dQ群軍]t卦袈祁係YjZgTccR]9珪型]%i8CY_YoVmWd]iXOZEYq]2hRlmeg_jWsWoXzZ3b@W^a|a2X!Yqb4qugP芸迎zG劇戟^jwy隙桁傑欠Zn`+w[`-w+]B月件ZVViWaZ*Y)La;[ Yd_scr_dWhYiXFh+Y|o`PXIevX!f?県s@q9[G](]O[J`d`V]:[xdN元^b5v^Xs減X<f)XArBf)n.Yhx7乎[wbwX`_)`([L_8Y'XC`c`_^pjuddtCyr股Wb`a^dd!aXd8dz[Yjz五VzXBd$YoVqhsg86Ylnn]Fspck語'Y@i@乞鯉交YEWTX1VyZFDZF;WgXdWkOVy[4]'Ws]:]6*WS^[#1XH,8>X(ZMYhZ_WcY<[MY4WcXyX@Y X=ZG_?Y8WaY3X5jcZi]D]2_LF4WhWu^jVjXt#XkW]XcZ;f/6_f[@X blXsYj砿鋼_SXq[r[MZR^i剛WrZ`2e]tl濠豪`F麹克Y^]o__穀酷yq[+獄漉腰甑忽YJ骨狛込此頃今o1X;Zn[Ui5Zsd1Vs^8X?g nCm$fj魂些Y!dcZPouX>)tVe-n?b,詐rC裟坐lqdn債VsYN最哉b2Zq]TbV`5Zhe+a-_@^|采犀gq2ZZ斎細jzeuipmQ剤eS材罪財冴gj阪堺榊肴咲oh埼碕鷺作`?^F搾]IYYYN窄Y?]+錯桜鮭笹匙冊XusKl0[rWY^Ldw薩雑皐鯖捌錆pV皿晒三_:a padabGY>`Ms*]CZmjA`<nyf#Zle,mW斬Ymep仕V|X-Wg_g[xVv]PYf]pYMVzW",
    "WZeYk[oJ[fWh`;^-孜uB/L[obc:X[lOi+X?a.B3aoX'Y_mcY5,VyGX)]86t9^5歯事XyWs]!tPXkg)[sa8eobG治g__*Z*`>X@kEH[q_UwE汐鹿式識鴫竺軸宍雫七hpcIZM[QYHeu湿XNk+質実蔀篠偲柴芝屡蕊縞c3写uZm#赦斜yYn5bw`?wSbJ[^蛇t,借`,r=wTr&[s酌XCZw若寂ag]'主gwmrk6evdBlyYeivlVzfbLoO儒_qXZmTmHk$綬需囚収XblHXb[g修愁]]u#|b,aoYy[>]|WS^wbSZ?^#`5Y(YpZ-Bg5醜什XV]U][|%_&hGdV])g3vX重Y#叔f|_Q淑xnea粛塾熟出術m]俊峻r'瞬a.lR駿准循ija|]z^pXkY;mYi=巡遵Z%jL処WX所d:WjlZ庶緒[Y書薯Wjf6助ZCgvfQYoY2鋤ax傷X/[xWeHXmYjX%VgYSaHWxXE[2Ws*#*^p'WxXW`a&WyXyVg_;&BWkYvZ7[67_2Y9XHWq`5VfWcdIZMZpXlX+XRY^R[OXYaTa7Y!Y+`fX^Z?>9@]MXDeUY/Z+Xb_/Yj上Vz7WZa7YFg9X-X`^[`h_8d!^iVqhpgM_if%uDk-in[ 嘱]!飾拭iG_4j$|:^(]Zm3食蝕oh尻伸XqVOg-fN[w-bx[D]@_,Xc_NXub|X@l[XMZz^DXOaDe?Y9`LcCXWdZY^X_[ef`人(a9j?X>`q甚尽腎pnh<jlYx笥諏須酢図厨逗吹a@jqg_p=d?kJf`aLpAn7Z%[v)ao瑞髄崇X)nm^7趨r0据by]/菅頗S2裾澄摺寸世瀬fg是凄X9Xtkeh/Xn]Ha&WVXsWw_)TSaD_MdV_X[vheb5声製XIZ4VoWYg-[.hA(斉税kl",
    "隻席_ZZQb(X6[5石^`]`]P_xy)Y%XDXE碩切拙Y9Xe折設窃ZP説zl絶e%fs仙^u]Z>oNX&5]&d2B^oaZBe$XCVM染mH]QP旋穿ZA^2X7Zr]1Xi?aeeW^fZ:_.V|^;V``CiR前a.漸]^全禅e`aU糎噌]ed@kvaKV|^cs!_bV|axWjXP_dXPEpucqz4遡鼠僧[GZk7倉h!a;X(爽宋YF匝惣1^oHV7XCZ%Z/Z#巣yrQfM` 争痩Z!b8^QY^VH_q`90Z'WrZR_ve:_<X3a b!`G像n-qN臓aYn8`j促Xy]2Z?息`+cYk@足^r俗|Z賊族続卒袖其揃存4Xgnia;遜他u31汰詑唾`([IleZwgI舵楕陀b X+体pec;耐岱[7ZjXcZ>YVeZhs]M胎XyZih8cqa?Oj)o]鯛代fBfm第醍k2h.滝Z^卓]PiikFWhWVssaDcw託tk濁諾茸凧蛸只V|但達U1奪脱巽竪辿棚谷狸鱈樽誰丹fT_YZtx@YJ^IgC_>XA^WlY`SY(]q_-XPi,bhpx団]CjDj<YVc-ZHs%談値知地nPZ^i<hhs7cjg/_1fYr*rl築畜gyWzrqx-秩XqpU嫡着中Y2||d0`.aw[of,虫]l]#l,[_kP樗i6`U苧[)od丁a<XLb^j7^&>WpXZBWWWk^CZ2b.XBo]`5`9]`r7Y2Wai%a@>_TX5e6`._6es勅捗直朕gNl_賃k__q津墜椎Y+追b:痛通塚栂掴io佃漬柘辻蔦綴鍔椿iX坪[F^:紬爪吊釣yX亭XiZ :]-貞呈bzan_.X?9WlI[&^.XLX^eob.zuYuXDbsdPm|YQaU].XmX<Xs鼎泥摘XQXZs!mOe&適a`",
    "溺哲v]e|轍Xh^]典kgY+a#^G添纏甜貼^+rw点伝殿c5gZ電兎_nciCZi_`a)i,]$k8of菟qf`yYV^U砥6努z)土^Zjl倒Z[WtBWT`ba;%Ym^CZuX]a(]8[Qa;Y?X@D盗淘X_T[`%Zm当痘b<]1,Vz[=Xc到董YtXBcnYdZU](]S-cM^c[q]c闘働]hZJc9cOgu`Hp1v*a)i6`b|!^7峠鴇匿|+=涜emez^b^*毒l3読栃^d凸突椴届鳶苫寅酉瀞噸hydAe.l?豚c*n7呑曇鈍奈那内乍b:薙gP灘捺鍋楢馴縄畷南楠軟nj汝二尼`%迩匂賑肉hr廿kY乳`Co(_i韮任v$ik認濡ssV-寧葱猫熱年[:b#Z2燃vk乃廼之s4SOtP濃納c3WWXS農覗蚤巴e%^(覇杷gFX#klcA婆罵a/馬俳廃c^Y!]$]x盃牌背Vj輩^)倍nQ_D梅Y[nV[R買売賠s-這蝿秤矧zp伯a-Yc拍f7f0sVfLYoh!aEuV曝oN`7zBgl駁eu函箱硲a=e_筈櫨幡肌畑0八鉢溌nS醗rP伐罰抜筏閥l^噺]>蛤隼伴`AZ9XJ/tuiMZy]MeN1i X.ZQZ|qDc.bZk3範釆煩頒YJ挽a#番[3]K|F[e匪HYBg8f9YcZI[PQWS`6ilYfq=Yj]BZZc6[fZAnl]n]bbbkR[6樋簸備y,ahn>d:oi`%p6鼻柊稗匹疋髭彦膝^Y肘弼XP畢hf逼桧姫Xx紐百謬俵彪vD^#_whbdp表]L^)廟f%病cPq]錨VE蒜^V鰭品v@iGn5_e貧MxI敏瓶不Y8q`Z_ZNZ",
    "z冨|.Xa[3^f`RQY4kteWqGiQWlYmpuZWWhXUpYI侮撫k.舞^HYwx`封楓風葺YJ伏aW復S%pz福nOmMXF淵弗a5uR仏物鮒分^:^>^DqHY7焚奮粉WwW_雰文聞丙Zp]`k>iJ1X_pl並蔽閉Y?米頁僻n+癖^V別瞥蔑箆偏pl片s#^&辺;X@便`[lzeh鞭保舗鋪圃|%nzsf補i`穂募h5ptY!e3fT簿mj倣VP`_ZTc.Z+^YZgV|W[[&c_Y#]6XBZfhK-c[lRh|__]4ZmYM]v]pZ+^%dE^1iRc9X@乏Wt]K](f)^de$[T!^ld_X.Y!Yp冒紡b&YlrU[EWTh@bQ吠頬北僕_2g'z7_-wof4`1釦勃没So堀it奔本翻凡盆摩磨魔a_埋]M|A[,cx哩槙幕膜枕鮪柾鱒桝亦ZPc(抹d[g[迄侭繭麿万慢満Xs蔓味未魅巳箕岬TI蜜湊蓑稔kh妙粍民wJ務iq無ZQgW霧ib椋婿Uo冥^nX7明盟迷_LuK姪牝滅免棉綿N面lr摸h*茂妄]:毛lYbuk3^kdl儲木黙目杢勿餅尤i>籾貰問xH紋門匁也aNm%爺耶野弥矢厄z!約pYdqdCp|柳薮鑓愉V|y8s<諭d4唯佑]8[VYrn?`)^(YO^Ya*Y>jZTTh+!]Ycc裕]!h3WiX+hP融夕予Y>S>誉eEq(傭幼妖^(`PfWAY4]|^tXUa*[e`/b1gcekX=d2XGeG[Y`:^ai?_8慾Z&pRZeY_翌Q淀羅o@ZQ来莱頼SD洛絡kO酪乱f9t$欄ew藍X'ar利]Eobw$Znx?XDZs裏3qBfKU",
    "l律率l^s&掠略劉流ZogHZd`dck隆竜龍侶慮d@虜了I^1両bHtlsN`9fqg>`u[$^u_wgdooh+Zge5[]力緑倫ae林i[cH^i臨輪m8h5^M瑠塁涙累類令WtWw^1YhwD^h玲gfs:鈴dmWa5mLY8暦e^列XS烈裂廉[;ZX漣^+w0[p_&diwq`Z呂魯櫓h7賂Z@r@労mLdsW[ny^k9bt[_aJXbqHcWXDk@s&六麓禄k|録論倭dH話歪賄脇惑kB鷲亙V|鰐詫藁V!椀gYtcpp~1J10h弌丐&6(&'$$5#K$豫亊舒弍于1!!#/$$9V|Vs#Vx6(0Vn93WsVQL#VvVlP3(*V_Vj(BVY81[;SE,Vk+$Vr*Vr5!WV/Vh7VwV[TFYGL)$VMVmCVqW_%會偕VwVt3Vx7-);VgPVz8!Ve05)()Vr,,Vx5Vt!5V|V|'(:Vy&V|%!3Vv)/竸兩!%3#g1册Vy'###!/#Vx(!!)Vz!Vz&))%3&處凩%$&*'(*Vv:$%&'7Vq(!3Vr7+Vq+-Vz1(VzVZ8*辨V|劬!0Vu--+(&$飭勠4#$!.#甸匍$V|'&*-##&)'V|丗fh%凖[A,&h+卻Vx,5+'V|*#'.簒雙叟曼w-叮Vv&.(W^$Vh!0Vn)VoVpRWcVb:VL3'VuCVe&Vr/-VrWcVV7Vi(9%V[$8V^;Vz=.!J&VeVmV|.VdWy(DVeV^OVe2!V]VwKW^VcT_YH6VW$;'1VI(GVYBWSVg;Va9)VlWbV_@VdV|?VYWw#營嘴#Vx'WTVuVFW_Vz=Vv+7VpVw7*)Vz/Vv&#Vy)'$#%8,(V|&&V|$#'&VzS:Zi+2!7Vi&0;WyVCVT?++.4Vm''4$/Vz!WXVG.I/%WwV*WcVeF毀塒VgW^-WUVb-0EVXVyVr8/Vz'#V|.Vs)Vw1,V|#!!&",
    ")',梦夥(!&''竒奕VwVz-Vz+Vz(&Vy0*=佞WotA05CVpV,Wn!WmVvVn,Vi2GMVXVh!M)QC#.VsVwGVp0$ViE!2V|,=UtX -)&#Vw2%&!+%($#$tY孺'$D3,%#,Vx5#VxVx('&'Vy3#!&'.#'1!)&)&VyV|TQYi#乢屶$4&$妛`b1Vw'Vw/Vu*315VyVoXgU3B+#WgV>VxVr$/VtV|V|WU'VxVyB($2VyVzAVw0#0VNH&.%'V|%&1($70V|Vt+<!.V|Vy/*Vy,$#V_O!%麼广BB!')V|(.VvVy!(V|(!$&#Vy%%'&'WvV|V*'&4%,*(%#V]C&!#)-'%-V|Vy,Vz*Vr8VwV|))&0;FVe5VuVhYCU CWaV4Vs:VaDVfVv7VwVeLAVcJ.VdVgVx(7V[BVYKV|VjI-X Ur8Vf8Vw!Vw6V`WxVRIVoV]TlY:*VkDX<VCVmVl!*Vp'*?VUVr=!WZVsVfV|DVqVyVl)*&#P%V]!!2*VwVr-VjVzVrCEVyVmFVd'Vl(;$?VzV|OVLVw$Vp2罹懍:Vy4%Vv,VzV|##)!%V|)($$*%##!/.1&Vt&)5'(Vq5!$W`V*2WeVvVf5QVB]n拈5VlVzVt&VOOWeV^$WWVV'Vc'X!Vj0Y<TcWiVtVnLVFNVhVv77V1VzWwLVR'>Vb*EVIWt?VM.41YTT)2VcWz)(VSYIU@Vz3%VZWU?VtVo#Vp>VfPVr舉擠!抬^<-W_VEVzVz)'Vy<%Ve@V|)*!#V|#畋效/V|Vt,'V|6'+!變斛%---$Vw$)'*Vz(!1[:S VuVt[1SK!VzVdWTVq&Vt>V|($!Vs$/4&'VwVw5&EVt1VqVz)Vp?%'U4Xo$(&#9())!霸朮2Vs,VsV|09#Vu+!FVcWZVNVjCV|<VwV`WSWYV@WYVBWWVJMVvV|&-VF6VtB_a栞IV_8.Va=X,UMO+5)AVl?Vc*VzVd^0梹V6WcVg;WwUSVmXJVDW`VKWl%",
    "V6LV<(4VjX(VWVnVN-WdVOVc0WZ#Vl*VzU|X|VzVa=VoVeKVlVFW]VD=VRRVyV|EVeWjVxCVk#3Vg1寨槊4VY)V`XNU80VxVu@K+;:V`YySyVuVq?V'X4VJHVR@)XwU7VlRVCX-V?WdVJ<Vs.V^VlVfX5Vy4V`?!Vp蘗檻)V|VrVwVuWSVo/VFQ12+蘖櫺9%鬱欟:V|y,欹飮歇Vx'(*Vw(%#8!'!%V|+,Vy*''!%$V|#%&+&)-.V|)Vx麾氈,!(*V|W]Vs.)9,.Vc;V_Vf,@VzWUNV^Vf;Vj9VL$.VxB5Vf2WV衍洶Vq3VwV]=VzVZVvWyQVLVr@V[WV(^T涅X;=VqV&3@VM/GVnVj=VfVoWVVZ,Vm6%WaWcV;VgW|ViVZVaWjV;WmVRVMEVs5VQYHTM<WlIVjR~ew2n6VjC!V57>VXXjVKZNS)-'WcV.WaV9WeUpX9VPV`XVVpVz*V|VkVhX`UO6VvVWWW$RUzWoVlVz$6.V`WVVr8Vd%:VyViO#Vk8Vl/Vk>V|U/XqVw(2/Vp@3WWVu>WdV6-VwVwRVh3VxQVp@VyWnVlWTVYVxVf+7DX3U_24%LV^&5Vs,Vv3-Vw/(Vy'/$,.&V|%#*!$!'&.=+%V|',%-&3Vu2$Vz+%1Vz!9Vz倏猗Vo3Vv(8VwVvVx:1!默獗4Vz))Vy'V|WpVg<Vi&F*VlY1U8X1V1VNW[)<VfAVvVd<.(Vo(-).4*D&&TLY]$%#&%Vz!(V|.V|#(#V|)Vz,)'1)*VyV|3Vg50Vw$%#,Vz1!Vi7V|Vu3'$)Vz@Vm1Vn)Vw%Vq=Vy)(+VwA!Vy&Vk+Vt!9#Vx7)Vu!!#1Vx,-!Vz7Vx*!'!!Vy&%#%#%%$&$$)Vy'!7%%!!),*Vx-$%#$蘯盻.V|VyFVwVv(!Vq=!04/$Vl+;V|Vw6Vy'0Vz3'$'Vy!Vz-'+$#(,/1'Z'T)YxTJWkVb3Vr?Vn83Vq&CVq&*VfVz*&CVwVoDV",
    "s4,V|)4V|6AVs)VwVwVzH&,4+齋禪%&'!0-3&Vq#F&,!(V|U6Xy+$Vu-5Vn9!(龝穰*%,0Vz$Vz4@Vd'0V|Vw邃竇$$#'Vz'!$%!%($3.VwVxNVa!&8Vo/;KU`WkV9WcVuQVl0Vo*!Vw#PVw(Vj0VzVm(VyVIW^WSVr,$Va38-I$VMV|XBUv(-V[%AVrVeN%$Vq9Vp30Vs2VwVm1)(&Vn0(*/.5*Vq*Vr(,V|V|Vy,%$&Vy7Vv+'鬻糯$##%-Vx;VuVqW]'V_%.Vr2NV_VtEVr'V]5QVrVMWUVj?@VpVq33VrVjXYU:.NVWVc2I&(Vv>VsVkE&:VzVm@VjVf#8EAVPVv%+VpVw)NVrVu)Vw!@VmV|4V|)U'Xp辮繿*!$'Vz$!#Vt.!Xd#,(!!#!%V|%(!)!Vz2+%Vy&V|&)+V|Vy*-$(Vq)#y@翅!%,V|.&$+'飜耆Vz(('!$&(8Vx0Vx-'#&$',V|Vz'$%#&#V|7Vt(4冐肬P+Vp%Vc7VxWTVb#K/Vv-=隋腆Vt6VzV&X<VyVs!/0&#Vr#?Vq0V|V7WU7(&*Vv&$#Vt0%%)V|Vl3&!(4!$$!$#$$$'4#.Vw.:V|&Vy&&Vz'#!V>We'!'0&:Vp=VmWV#VxVoCV|(XaUEVtVzVaIVQNVKX#V|V^=V|0Vu8VqVfVxVh!X461Vq$VpUcX2Vu$VnWZV9#LVe@Wn@VSV_P'VPWTV1WW1VT3<6VzUsXBY;T$X9V83Z1TYVoVpWdV<5VcVXVbWe+V7X]UnWy'V[W[VpVj@VrVm&1VFXGVYVqD!5VoVrV|VdWfDVqVlVuY.Ty+LEV`*Vu?V@H(WqUs6VV(3WZVm6Vf8&))Vs>2*VtVoVx-=Vt70/乕虔,)+C1'!V]!KVu6#Vf:Zn蚫J+,$VoVx5DVp#Vt$Vt7Vt%Vh2K,Vt%Vf%VmWhV|:VO#GV_2'VgVv1(XcUsVyV_N=Vn$1雖螫:Vk5V|VqWU$VjPVzVmVt",
    "!8V?Wa&~xN11&$Vj5*Vz1(&%*7VyAVR)WYV816Vw=Vg*Vg8-0Vn3!1%!%=*VvVtVp+3)Vz*QVV(&!7$VsVw#5VLWeVz)Vz*Vy&&$(&&#*&*)Vy'$$)$#!;#!+.%,4VvVx0#)2,;VsVp#WUVmV|VrDVy#EVuVl5!Vp*B*Vq92)VpVy.DVG#6VcVyRVw4VBWVVv(*4|K謦&4Vf:,$V|Vw.&V|2Vp.$&*$-#%!$$!Xh(Vz*%##&.+-#)(Vx&$!'Vd=戝貭Vy4Vq!Vw)3VuDV|VsDVy!*!&Vy)Vz$齎贓V5Wi#Ws'%#/9JVxVx6,VxVr0Vl@!Vp%:-!Vr?!Vn0DVoVw%7Vy#$%Vt2,VxVEWZVnBVx+&'VzV|(V|*Vz$&2Vs,%7Vg.($$1):V|Vl4-Vw1Vy(Vv*$VxVm;.)Vz-VyVx/VyVy)*&'!!WY$%+#)D,Vy)&X`UB2Vp!8%-Vh2VtVq=0V|%V:Wy!!!V7W]Vq9#'+((iY遲1Vw%V|+V|':(#%N#扈郛H1(:Vz;-#,#%+V|:VzVuA*%Vw,V|''!)#&'*#VvBVu!IV]69VeVxWoVuVj%<V`WoV%-&WnVvVy)V:X<VfVzWSGVgWlVfVg*Vt*8Vw'B%=VnVdX Vx!VcF>!2VyVoVg;VoVt=WWVvV|Vl%*GVq+Vh:(2Vn8&#Vx-鈩^L&#'VXC#$VzYq&$+##!()V|'0V|Vz&-濶闃+V|*V|#'&%VyWa('!4+$VxMVa#V|#(-VvB,Vy#4Vy+!Vz%##!6VyVz%襍雜RVCE,##,Vw$Vz($,''*%!'##Vv(4%%##勒靫')-Vs&Vu-&%!--VzVy1!0$#$22m 韲竟韶V|;VyMVhVy7'**VxA%!!$V|WX&#&/V|$D#9'*#%*Vx!'Vx-#0!%(Vx,Vw'!Vv*Wd!.)!/DVx#VwVu=!$!*Vy*/VrVXWX3-/VyVz$Vw8Vt/Vx)$$V|&#V|We$-%0##!+!$!$*Vx$'Vy'%,3#&$",
    "!##!!!%!$3V|-Vz!$(=@Vl/&!)!)--+Vk.*#!2V|#Vl.W|V3V|V|FV|Vq+VuVv#+VtVvKVi+V|Vy08Vg5Vt='(0#X6&%:V|V_9$EVxXPUIVxFVLVyPVzV|)#6!'ViV|*:8VzEV?,A+&*3VyVvVy#-*Vo8VvFVj(#/>!$Wy%%%($!'$Vx-)%0Vn$靡m*#!!%)#V|$&$(&#~hD1+!皷鼕-,3-)#0Vx!!&!&Vz.Vw%@(%堯槇遙瑤凜熙� ~0017S纊v'tvTp蓜俉炻昱_B鋹曻彅丨Y&<%$WW>W^Vt1VvWZX:V^VX@IKVMWtX'V`X9;WZBOJXN+;<F(>WpB@L﨎咜Vj@WxXN]2-Wi=V|﨏!增5W|Wj)#'Wc7[UX1甯寘5WSXO5W]WSM﨑嵂LWm!8Ze4WTWrHXFI&WvVsWmVM@GVuX/XBXZZcX2W_RXGXz6GVIFVl'WcVn#晴晳G(3.W]5朗杦WwX_UCWcWeXR﨓楨﨔榘WlWpW]VVN,X+#Y`X0>KVeX2KXJVdH7DJVv+W_DVF6XJY6NWb1#BX$GX+VqWzVf!凞燁W_X|.X-猪獷Wh-..VkWVVjR%V|&WUH7X)X5Z&;#Vy,益睆劯砡N77Y#礼!!禔福禛ZI7靖竫X|精絈5X!VeWWXCYcX 羽茁X(>WjPWtX3Xg'3﨟薰蘒!蠇Y[Z0FWdO8B諸諶X$M[*%?X+﨣軏﨤!遧X>都鄕3X|Vy(0!Vr!B+VvQ'Vx3,VtVdOWbVK!X6Vl#Vs﨧鋕,VoWtVxVU﨨錞V]?VaX5VcWoC9;WZ5$Z^隆Wo隝3XK))+##%Yp/飯!餧館馞XxXR$XaVy>C+Wg[)Vw鶴鸙Y%� ⅰ!",
    "~e04￢#TRVwYi ~001XK~0Xd0AVc~0Xo0F㈱№,Z'~0gU8L~0012o"]

/-- The characters by pointer. -/
def jisTable : Array Char := (undelta 50 360 (unpack jisPacked)).toList.toArray

end CriticalCss.Text
